import Wiretap.Proofs.Client.Likeness
import Wiretap.Proofs.World.Sound

/-!
# Clients do not disturb each other

The state of a client depends on what is done to it and on nothing else.  This is
said by running a program twice: once as it is, and once without anything that is
not done to the client.  Both runs lead to states that are alike.

* `World.state?` is the state of the client of a number.
* `World.AlikeAt` is what the two runs have in common; `World.alikeAt_run` says that
  they keep it.
* `World.clients_are_independent` says it of every program, together with what a copy
  is at first and what clients share.
-/

namespace Wiretap
namespace World

/-- The state of the client of a number, unless there is none. -/
def state? (world : World) (number : Nat) : Option Client.State :=
  (world.member? number).map fun member => member.client.state world.session

theorem state?_eq_some {world : World} {number : Nat} {member : Member}
    (h : world.member? number = some member) :
    world.state? number = some (member.client.state world.session) := by
  rw [state?, h]
  rfl

theorem state?_of_none {world : World} {number : Nat} (h : world.member? number = none) :
    world.state? number = none := by
  rw [state?, h]
  rfl

/-- What is done to others does not change the state of a client. -/
theorem state?_step_of_not_isFor {world : World} (h : world.Sound) {number : Nat}
    (hLt : number < world.members.length) {action : Action}
    (hAction : action.isFor number = false) :
    (world.step action).state? number = world.state? number := by
  have hSame := member?_step_of_not_isFor hLt hAction
  cases hMember : world.member? number with
  | none => rw [state?_of_none hMember, state?_of_none (hSame.trans hMember)]
  | some member =>
      have hOptions := (confined_step h action).others member.client.cell
        (h.fits number member hMember).cell (target_ne_of_not_isFor h hMember hAction)
      rw [state?_eq_some hMember, state?_eq_some (hSame.trans hMember), Client.state,
        Client.state, Client.options?, Client.options?, hOptions]

/-- Two worlds have clients of a number that are alike, or neither has one, and they have the same
directories. -/
structure AlikeAt (number : Nat) (left right : World) : Prop where
  sound : left.Sound
  sound' : right.Sound
  lt : number < left.members.length
  lt' : number < right.members.length
  ground : left.session.outputs.disk.ground = right.session.outputs.disk.ground
  states : Option.Rel (Client.State.Alike left.session.outputs right.session.outputs)
    (left.state? number) (right.state? number)

/-- The clients of both worlds, if there are any. -/
theorem AlikeAt.members {number : Nat} {left right : World} (h : AlikeAt number left right) :
    left.member? number = none ∧ right.member? number = none ∨
      ∃ member member', left.member? number = some member ∧
        right.member? number = some member' ∧
          Client.State.Alike left.session.outputs right.session.outputs
            (member.client.state left.session) (member'.client.state right.session) := by
  have hStates := h.states
  cases hLeft : left.member? number with
  | none =>
      cases hRight : right.member? number with
      | none => exact Or.inl ⟨rfl, rfl⟩
      | some member' =>
          rw [state?_of_none hLeft, state?_eq_some hRight] at hStates
          cases hStates
  | some member =>
      cases hRight : right.member? number with
      | none =>
          rw [state?_eq_some hLeft, state?_of_none hRight] at hStates
          cases hStates
      | some member' =>
          rw [state?_eq_some hLeft, state?_eq_some hRight] at hStates
          obtain ⟨hAlike⟩ := hStates
          exact Or.inr ⟨member, member', rfl, rfl, hAlike⟩

theorem AlikeAt.refl {world : World} (h : world.Sound) {number : Nat}
    (hLt : number < world.members.length) : AlikeAt number world world where
  sound := h
  sound' := h
  lt := hLt
  lt' := hLt
  ground := rfl
  states := by
    cases world.state? number with
    | none => exact .none
    | some state => exact .some (.refl _ _ state)

section Steps

variable {number : Nat} {left right : World}

/-- What is done to others on one side changes nothing on the other. -/
theorem AlikeAt.step_left (h : AlikeAt number left right) {action : Action}
    (hAction : action.isFor number = false) : AlikeAt number (left.step action) right where
  sound := sound_step h.sound action
  sound' := h.sound'
  lt := Nat.lt_of_lt_of_le h.lt (left.length_le_step action)
  lt' := h.lt'
  ground := (confined_step h.sound action).outputs.ground.trans h.ground
  states := by
    rw [state?_step_of_not_isFor h.sound h.lt hAction]
    exact rel_of_imp
      (fun _ _ hState => hState.later (confined_step h.sound action).outputs (.refl _)) h.states

/-- What is done to the client is done on both sides. -/
theorem AlikeAt.step_both (h : AlikeAt number left right) {action : Action}
    (hAction : action.isFor number = true) :
    AlikeAt number (left.step action) (right.step action) where
  sound := sound_step h.sound action
  sound' := sound_step h.sound' action
  lt := Nat.lt_of_lt_of_le h.lt (left.length_le_step action)
  lt' := Nat.lt_of_lt_of_le h.lt' (right.length_le_step action)
  ground := by
    rw [(confined_step h.sound action).outputs.ground, h.ground,
      (confined_step h.sound' action).outputs.ground]
  states := by
    rcases h.members with ⟨hLeft, hRight⟩ | ⟨member, member', hLeft, hRight, hAlike⟩
    · rw [state?_of_none (member?_step_of_none h.lt hLeft action),
        state?_of_none (member?_step_of_none h.lt' hRight action)]
      exact .none
    · rcases Action.isFor_cases hAction with ⟨c, rfl⟩ | rfl
      · have hCall := Client.alike_call (h.sound.fits number member hLeft)
          (h.sound'.fits number member' hRight) h.ground hAlike c
        rw [step, hLeft, step, hRight]
        dsimp only
        rw [state?_eq_some (left.member?_put_self number _ _ h.lt),
          state?_eq_some (right.member?_put_self number _ _ h.lt')]
        exact .some hCall
      · rw [state?_of_none ((left.member?_drop number number).trans (if_pos rfl)),
          state?_of_none ((right.member?_drop number number).trans (if_pos rfl))]
        exact .none

/-- A run leads to the same as the run without anything that is done to others. -/
theorem alikeAt_run (h : AlikeAt number left right) (actions : List Action) :
    AlikeAt number (left.run actions) (right.run (actions.filter (Action.isFor number))) := by
  induction actions generalizing left right with
  | nil => exact h
  | cons action rest ih =>
      cases hAction : action.isFor number with
      | true =>
          rw [List.filter_cons_of_pos hAction]
          exact ih (h.step_both hAction)
      | false =>
          rw [List.filter_cons_of_neg (by simp [hAction])]
          exact ih (h.step_left hAction)

end Steps

/-- After a client has been copied it is as it was, and the copy, which is of its family, has its
state. -/
theorem step_copy {world : World} (h : world.Sound) {number : Nat} {source : Member}
    (hSource : world.member? number = some source) :
    (world.step (.copy number)).state? number = world.state? number ∧
      ∃ copy, (world.step (.copy number)).member? world.members.length = some copy ∧
        (world.step (.copy number)).state? world.members.length = world.state? number ∧
          copy.family = source.family := by
  have hLt := lt_of_member? hSource
  have hState := (h.fits number source hSource).state_copy
  refine ⟨state?_step_of_not_isFor h hLt rfl, ?_⟩
  have hCopy : (world.step (.copy number)).member? world.members.length =
      some ⟨(source.client.copy world.session).1, source.family⟩ := by
    rw [step, hSource]
    exact world.member?_join_self _ _
  refine ⟨_, hCopy, ?_, rfl⟩
  rw [state?_eq_some hCopy, state?_eq_some hSource, ← hState, step, hSource]
  rfl

/-- Different clients have different cells, and so different hooks. -/
theorem Sound.hooks {world : World} (h : world.Sound) {number other : Nat}
    {member member' : Member} (hNe : number ≠ other) (hMember : world.member? number = some member)
    (hMember' : world.member? other = some member') {hook : Nat}
    (hHook : member.client.transport.hook = some hook) :
    world.session.hookCell? hook = some member.client.cell ∧
      member'.client.transport.hook ≠ some hook := by
  have hCell := (h.fits number member hMember).hook hook hHook
  refine ⟨hCell, ?_⟩
  intro hHook'
  have hCell' := (h.fits other member' hMember').hook hook hHook'
  rw [hCell] at hCell'
  exact (h.separate number other member member' hNe hMember hMember').cells
    (Option.some.inj hCell')

/-- The clients of a program, whatever it has done before, do not disturb each other.  A copy has
the state of its source, and a pool that has been built for it.  What a client comes to by a run is
alike to what it comes to by the actions on it alone, and outputs that are open stay what they are.
No two clients have the same cell or the same hook.  They have the same jar if they go back to one
configuration, and none in common if they do not; nothing that is done to a client changes its
jar, nor that of its pool. -/
theorem clients_are_independent (session : Session) (history : List Action) :
    let world := (on session).run history
    (∀ number source, world.member? number = some source →
      let copied := world.step (.copy number)
      copied.state? number = world.state? number ∧
        source.client.transport.copy? =
          .ok { source.client.transport with hook := none } ∧
        ∃ copy, copied.member? world.members.length = some copy ∧
          copied.state? world.members.length = world.state? number ∧
            copy.family = source.family) ∧
    (∀ number, number < world.members.length → ∀ actions,
      let whole := world.run actions
      let alone := world.run (actions.filter (Action.isFor number))
      Option.Rel (Client.State.Alike whole.session.outputs alone.session.outputs)
        (whole.state? number) (alone.state? number) ∧
      Dump.Outputs.Lasts world.session.outputs whole.session.outputs ∧
      Dump.Outputs.Lasts world.session.outputs alone.session.outputs) ∧
    (∀ number other member member', number ≠ other → world.member? number = some member →
      world.member? other = some member' →
        member.client.cell ≠ member'.client.cell ∧
          ∀ hook, member.client.transport.hook = some hook →
            world.session.hookCell? hook = some member.client.cell ∧
              member'.client.transport.hook ≠ some hook) ∧
    (∀ number other member member', world.member? number = some member →
      world.member? other = some member' →
        (member.family = member'.family →
          member.client.transport.jar = member'.client.transport.jar) ∧
        ∀ jar, member.client.transport.jar = some jar →
          member'.client.transport.jar = some jar → member.family = member'.family) ∧
    ∀ number member, world.member? number = some member → ∀ actions later,
      (world.run actions).member? number = some later →
        later.family = member.family ∧
          later.client.transport.jar = member.client.transport.jar ∧
            later.client.transport.pool.jar = member.client.transport.jar := by
  have hSound := sound_run (sound_on session) history
  refine ⟨?_, ?_, ?_, ?_, ?_⟩
  · intro number source hSource
    obtain ⟨hSame, hCopy⟩ := step_copy hSound hSource
    exact ⟨hSame, (hSound.fits number source hSource).copy?_transport, hCopy⟩
  · intro number hLt actions
    exact ⟨(alikeAt_run (.refl hSound hLt) actions).states, lasts_run hSound actions,
      lasts_run hSound _⟩
  · intro number other member member' hNe hMember hMember'
    exact ⟨(hSound.separate number other member member' hNe hMember hMember').cells,
      fun hook hHook => hSound.hooks hNe hMember hMember' hHook⟩
  · intro number other member member' hMember hMember'
    exact ⟨hSound.sameJar hMember hMember', fun jar => hSound.ownJar hMember hMember'⟩
  · intro number member hMember actions later hLater
    have hKin := kin_run hMember actions hLater
    have hPool := ((sound_run hSound actions).fits number later hLater).pool_eq
    exact ⟨hKin.family, hKin.jar, by rw [hPool]; exact hKin.jar⟩

/-- A call on a copy arms the copy and not its source. -/
example :
    let world := (on (.onDisk (.ofHome []))).run
      [.build .standard, .copy 0, .call 1 (.preset .head)]
    (world.state? 0).map Client.State.isArmed = some false ∧
      (world.state? 1).map Client.State.isArmed = some true :=
  ⟨rfl, rfl⟩

end World
end Wiretap
