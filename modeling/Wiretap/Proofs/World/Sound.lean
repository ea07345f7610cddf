import Wiretap.Proofs.Client.Fitting
import Wiretap.Proofs.Exchange.Footprint
import Wiretap.Proofs.World.Basic

/-!
# What holds of every program

Whatever a program does, each of its clients keeps a cell to itself, and the jars go
with the families.  So an action on one client is confined to the cell of that
client.

* `Member.Separate` is what holds of any two clients.
* `World.Sound` is the invariant; `World.sound_run` says that every run keeps it.
* `World.target` is the cell that an action may change, and `World.confined_step` says
  that it changes no other.
* `World.kin_run` says what a client keeps through a run: its family, its cell and its
  jar.
-/

namespace Wiretap

namespace Member

/-- Two clients have different cells; they have the same jar if they are of one family, and no jar
in common if they are not. -/
structure Separate (member other : Member) : Prop where
  cells : member.client.cell ≠ other.client.cell
  sameJar : member.family = other.family →
    member.client.transport.jar = other.client.transport.jar
  ownJar : ∀ jar, member.client.transport.jar = some jar →
    other.client.transport.jar = some jar → member.family = other.family

theorem Separate.symm {member other : Member} (h : member.Separate other) :
    other.Separate member where
  cells := h.cells.symm
  sameJar hFamily := (h.sameJar hFamily.symm).symm
  ownJar jar hJar hJar' := (h.ownJar jar hJar' hJar).symm

/-- One member is what has become of another: it has the same family, cell and jar. -/
structure Kin (before after : Member) : Prop where
  family : after.family = before.family
  cell : after.client.cell = before.client.cell
  jar : after.client.transport.jar = before.client.transport.jar

theorem Kin.refl (member : Member) : Kin member member := ⟨rfl, rfl, rfl⟩

theorem Kin.trans {first second third : Member} (h : Kin first second) (h' : Kin second third) :
    Kin first third :=
  ⟨h'.family.trans h.family, h'.cell.trans h.cell, h'.jar.trans h.jar⟩

theorem Separate.kin {member other after : Member} (h : member.Separate other)
    (hKin : Kin member after) : after.Separate other where
  cells := hKin.cell ▸ h.cells
  sameJar := hKin.family ▸ hKin.jar ▸ h.sameJar
  ownJar := hKin.family ▸ hKin.jar ▸ h.ownJar

end Member

namespace World

/-- Every client fits the session and belongs to a family, and any two are separate. -/
structure Sound (world : World) : Prop where
  fits : ∀ number member, world.member? number = some member → member.client.Fits world.session
  families : ∀ number member, world.member? number = some member → member.family < world.families
  separate : ∀ number other member member', number ≠ other →
    world.member? number = some member → world.member? other = some member' →
      member.Separate member'

theorem sound_on (session : Session) : (on session).Sound := by
  constructor <;> simp [on, member?]

namespace Sound

variable {world : World}

/-- A world in which clients have at most been dropped, and nothing has been done to them. -/
theorem later (h : world.Sound) {next : World}
    (hSession : Session.Confined none world.session next.session)
    (hMembers : ∀ number member, next.member? number = some member →
      world.member? number = some member)
    (hFamilies : next.families = world.families) : next.Sound where
  fits number member hMember :=
    (h.fits number member (hMembers number member hMember)).later hSession
  families number member hMember :=
    hFamilies ▸ h.families number member (hMembers number member hMember)
  separate number other member member' hNe hMember hMember' :=
    h.separate number other member member' hNe (hMembers _ _ hMember) (hMembers _ _ hMember')

theorem sameJar (h : world.Sound) {number other : Nat} {member member' : Member}
    (hMember : world.member? number = some member) (hMember' : world.member? other = some member')
    (hFamily : member.family = member'.family) :
    member.client.transport.jar = member'.client.transport.jar := by
  by_cases hEq : number = other
  · subst hEq
    rw [hMember] at hMember'
    cases hMember'
    rfl
  · exact (h.separate number other member member' hEq hMember hMember').sameJar hFamily

theorem ownJar (h : world.Sound) {number other : Nat} {member member' : Member}
    (hMember : world.member? number = some member) (hMember' : world.member? other = some member')
    {jar : Nat} (hJar : member.client.transport.jar = some jar)
    (hJar' : member'.client.transport.jar = some jar) : member.family = member'.family := by
  by_cases hEq : number = other
  · subst hEq
    rw [hMember] at hMember'
    cases hMember'
    rfl
  · exact (h.separate number other member member' hEq hMember hMember').ownJar jar hJar hJar'

/-- A client that is new in the session is added. -/
theorem join (h : world.Sound) {state : Client × Session}
    (hJoins : Client.Joins world.session state)
    {family families : Nat} (hFamily : family < families) (hFamilies : world.families ≤ families)
    (hSame : ∀ number member, world.member? number = some member → member.family = family →
      member.client.transport.jar = state.1.transport.jar)
    (hOwn : ∀ number member jar, world.member? number = some member →
      member.client.transport.jar = some jar → state.1.transport.jar = some jar →
        member.family = family) :
    ({ world.join state family with families := families } : World).Sound := by
  have hSeparate : ∀ number member, world.member? number = some member →
      member.Separate ⟨state.1, family⟩ := by
    intro number member hMember
    refine ⟨?_, hSame number member hMember, fun jar => hOwn number member jar hMember⟩
    exact Nat.ne_of_lt (Nat.lt_of_lt_of_le (h.fits number member hMember).cell hJoins.cell)
  refine ⟨?_, ?_, ?_⟩
  · intro number member hMember
    rcases world.member?_join number hMember with ⟨-, hOld⟩ | ⟨-, rfl⟩
    · exact (h.fits number member hOld).later hJoins.confined
    · exact hJoins.fits
  · intro number member hMember
    rcases world.member?_join number hMember with ⟨-, hOld⟩ | ⟨-, rfl⟩
    · exact Nat.lt_of_lt_of_le (h.families number member hOld) hFamilies
    · exact hFamily
  · intro number other member member' hNe hMember hMember'
    rcases world.member?_join number hMember with ⟨-, hOld⟩ | ⟨hNew, rfl⟩
    · rcases world.member?_join other hMember' with ⟨-, hOld'⟩ | ⟨-, rfl⟩
      · exact h.separate number other member member' hNe hOld hOld'
      · exact hSeparate number member hOld
    · rcases world.member?_join other hMember' with ⟨-, hOld'⟩ | ⟨hNew', rfl⟩
      · exact (hSeparate other member' hOld').symm
      · exact absurd (hNew.trans hNew'.symm) hNe

/-- Calls are made on a client. -/
theorem put (h : world.Sound) {number : Nat} {member : Member}
    (hMember : world.member? number = some member) {state : Client × Session}
    (hEvolves : Client.Evolves (member.client, world.session) state) :
    (world.put number state member.family).Sound := by
  have hLt := lt_of_member? hMember
  have hKin : Member.Kin member ⟨state.1, member.family⟩ := ⟨rfl, hEvolves.cell, hEvolves.jar⟩
  have hSelf := world.member?_put_self number state member.family hLt
  have hOther : ∀ other, number ≠ other → (world.put number state member.family).member? other =
      world.member? other := fun other => world.member?_put_of_ne number state member.family
  refine ⟨?_, ?_, ?_⟩
  · intro other member' hMember'
    by_cases hEq : number = other
    · subst hEq
      rw [hSelf] at hMember'
      cases hMember'
      exact hEvolves.fits (h.fits number member hMember)
    · rw [hOther other hEq] at hMember'
      exact (h.fits other member' hMember').later hEvolves.confined
  · intro other member' hMember'
    by_cases hEq : number = other
    · subst hEq
      rw [hSelf] at hMember'
      cases hMember'
      exact h.families number member hMember
    · rw [hOther other hEq] at hMember'
      exact h.families other member' hMember'
  · intro first second left right hNe hLeft hRight
    by_cases hEq : number = first
    · subst hEq
      rw [hSelf] at hLeft
      rw [hOther second hNe] at hRight
      cases hLeft
      exact (h.separate number second member right hNe hMember hRight).kin hKin
    · rw [hOther first hEq] at hLeft
      by_cases hEq' : number = second
      · subst hEq'
        rw [hSelf] at hRight
        cases hRight
        exact ((h.separate number first member left hEq hMember hLeft).kin hKin).symm
      · rw [hOther second hEq'] at hRight
        exact h.separate first second left right hNe hLeft hRight

end Sound

/-- Every action keeps the invariant. -/
theorem sound_step {world : World} (h : world.Sound) (action : Action) :
    (world.step action).Sound := by
  cases action with
  | build config =>
      rw [step]
      split
      next state hBuilt =>
        obtain ⟨hJoins, hJar⟩ := Client.joins_ofConfig hBuilt
        refine h.join hJoins (Nat.lt_succ_self _) (Nat.le_succ _) ?_ ?_
        · intro number member hMember hFamily
          exact absurd hFamily (Nat.ne_of_lt (h.families number member hMember))
        · intro number member jar hMember hOld hNew
          have hLt := (h.fits number member hMember).jar jar hOld
          exact absurd hLt (Nat.not_lt.2 (hJar jar hNew))
      · exact h
  | copy number =>
      rw [step]
      split
      next member hMember =>
        have hFits := h.fits number member hMember
        refine h.join (Client.joins_copy hFits) (h.families number member hMember)
          (Nat.le_refl world.families) ?_ ?_
        · intro other member' hMember' hFamily
          rw [hFits.jar_copy]
          exact h.sameJar hMember' hMember hFamily
        · intro other member' jar hMember' hOld hNew
          rw [hFits.jar_copy] at hNew
          exact h.ownJar hMember' hMember hOld hNew
      · exact h
  | call number c =>
      rw [step]
      split
      next member hMember => exact h.put hMember (member.client.evolves_call world.session c)
      · exact h
  | flush number =>
      rw [step]
      split
      next member _ =>
        exact h.later (member.client.confined_flush world.session) (fun _ _ hMember => hMember) rfl
      · exact h
  | drop number =>
      refine h.later (.refl _ _) ?_ rfl
      intro other member hMember
      rw [world.member?_drop number other] at hMember
      split at hMember
      · cases hMember
      · exact hMember
  | draft number =>
      rw [step]
      split
      · exact h.later (.refl _ _) (fun _ _ hMember => hMember) rfl
      · exact h
  | shape number c => exact h.later (.refl _ _) (fun _ _ hMember => hMember) rfl
  | send around number =>
      rw [step]
      split
      next draft _ =>
        exact h.later (draft.confined_send around world.session) (fun _ _ hMember => hMember) rfl
      · exact h
  | work hook => exact h.later (world.session.confined_work hook) (fun _ _ hMember => hMember) rfl
  | sink label place rule =>
      have hOpened := world.session.outputs.lasts_openSink label place rule
      exact h.later (Session.confined_outputs hOpened none) (fun _ _ hMember => hMember) rfl

/-- Every run keeps the invariant. -/
theorem sound_run {world : World} (h : world.Sound) (actions : List Action) :
    (world.run actions).Sound := by
  induction actions generalizing world with
  | nil => exact h
  | cons action rest ih => exact ih (sound_step h action)

/-- The cell that an action may change, if there is one: that of the client on which a call is
made. -/
def target (world : World) : Action → Option Nat
  | .call number _ => (world.member? number).map fun member => member.client.cell
  | _ => none

/-- An action is confined to the cell that it may change. -/
theorem confined_step {world : World} (h : world.Sound) (action : Action) :
    Session.Confined (world.target action) world.session (world.step action).session := by
  cases action with
  | build config =>
      rw [step]
      split
      next state hBuilt => exact (Client.joins_ofConfig hBuilt).1.confined
      · exact .refl _ _
  | copy number =>
      rw [step]
      split
      next member hMember => exact (Client.joins_copy (h.fits number member hMember)).confined
      · exact .refl _ _
  | call number c =>
      rw [step, target]
      split
      next member hMember =>
        rw [hMember]
        exact (member.client.evolves_call world.session c).confined
      · exact .refl _ _
  | flush number =>
      rw [step]
      split
      next member _ => exact member.client.confined_flush world.session
      · exact .refl _ _
  | drop number => exact .refl _ _
  | draft number =>
      rw [step]
      split
      · exact .refl _ _
      · exact .refl _ _
  | shape number c => exact .refl _ _
  | send around number =>
      rw [step]
      split
      next draft _ => exact draft.confined_send around world.session
      · exact .refl _ _
  | work hook => exact world.session.confined_work hook
  | sink label place rule =>
      exact Session.confined_outputs (world.session.outputs.lasts_openSink label place rule) none

/-- What no confined change of a session ends is not ended by a run. -/
theorem keeps_run (keeps : Session → Prop)
    (hKeeps : ∀ {target before after}, Session.Confined target before after → keeps before →
      keeps after) {world : World} (h : world.Sound) (actions : List Action)
    (hStart : keeps world.session) : keeps (world.run actions).session := by
  induction actions generalizing world with
  | nil => exact hStart
  | cons action rest ih => exact ih (sound_step h action) (hKeeps (confined_step h action) hStart)

/-- What has been opened lasts through every run. -/
theorem lasts_run {world : World} (h : world.Sound) (actions : List Action) :
    Dump.Outputs.Lasts world.session.outputs (world.run actions).session.outputs :=
  keeps_run (fun session => Dump.Outputs.Lasts world.session.outputs session.outputs)
    (fun hConfined hLasts => hLasts.trans hConfined.outputs) h actions (.refl _)

/-- What is done to others does not change the cell of a client. -/
theorem target_ne_of_not_isFor {world : World} (h : world.Sound) {number : Nat} {member : Member}
    (hMember : world.member? number = some member) {action : Action}
    (hAction : action.isFor number = false) :
    world.target action ≠ some member.client.cell := by
  intro hTarget
  cases action with
  | call other c =>
      obtain ⟨member', hMember', hCell⟩ := Option.map_eq_some_iff.1 hTarget
      have hNe : other ≠ number := by simpa [Action.isFor] using hAction
      exact (h.separate other number member' member hNe hMember' hMember).cells hCell
  | _ => cases hTarget

/-- What becomes of a client by an action is its kin. -/
theorem kin_step {world : World} {number : Nat} {member after : Member}
    (hMember : world.member? number = some member) (action : Action)
    (hAfter : (world.step action).member? number = some after) : Member.Kin member after := by
  have hLt := lt_of_member? hMember
  cases hAction : action.isFor number with
  | false =>
      rw [member?_step_of_not_isFor hLt hAction, hMember] at hAfter
      cases hAfter
      exact .refl member
  | true =>
      rcases Action.isFor_cases hAction with ⟨c, rfl⟩ | rfl
      · have hEvolves := member.client.evolves_call world.session c
        rw [step, hMember] at hAfter
        dsimp only at hAfter
        rw [world.member?_put_self number _ _ hLt] at hAfter
        cases hAfter
        exact ⟨rfl, hEvolves.cell, hEvolves.jar⟩
      · rw [world.member?_drop number number, if_pos rfl] at hAfter
        cases hAfter

/-- A client that has been dropped does not come back. -/
theorem member?_step_of_none {world : World} {number : Nat} (hLt : number < world.members.length)
    (hMember : world.member? number = none) (action : Action) :
    (world.step action).member? number = none := by
  cases hAction : action.isFor number with
  | false => rw [member?_step_of_not_isFor hLt hAction, hMember]
  | true =>
      rcases Action.isFor_cases hAction with ⟨c, rfl⟩ | rfl
      · rw [step, hMember]
        exact hMember
      · rw [world.member?_drop number number, if_pos rfl]

theorem member?_run_of_none {world : World} {number : Nat} (hLt : number < world.members.length)
    (hMember : world.member? number = none) (actions : List Action) :
    (world.run actions).member? number = none := by
  induction actions generalizing world with
  | nil => exact hMember
  | cons action rest ih =>
      exact ih (Nat.lt_of_lt_of_le hLt (world.length_le_step action))
        (member?_step_of_none hLt hMember action)

/-- What becomes of a client by a run is its kin. -/
theorem kin_run {world : World} {number : Nat} {member after : Member}
    (hMember : world.member? number = some member) (actions : List Action)
    (hAfter : (world.run actions).member? number = some after) : Member.Kin member after := by
  induction actions generalizing world member with
  | nil =>
      rw [run_nil, hMember] at hAfter
      cases hAfter
      exact .refl _
  | cons action rest ih =>
      cases hNext : (world.step action).member? number with
      | some next => exact (kin_step hMember action hNext).trans (ih hNext hAfter)
      | none =>
          have hLt := Nat.lt_of_lt_of_le (lt_of_member? hMember) (world.length_le_step action)
          have hGone := member?_run_of_none hLt hNext rest
          rw [run_cons, hGone] at hAfter
          cases hAfter

end World
end Wiretap
