import Wiretap.Client.Building
import Wiretap.Proofs.Session.Outputs

/-!
# Programs with several clients

A program builds clients, copies them, makes calls on them, starts requests and
sends them, in any order.  Clients of one program share a session, in which each
of them must find its own things.

* `World` is what a program has: a session, clients and drafts of requests.
* `World.Action` is what it may do; `World.step` does it, and `World.run` does one
  thing after the other.
* `World.member?` finds a client, and the lemmas on `World.join` and `World.put` say
  where.
-/

namespace Wiretap

/-- A client with the number of the family that it belongs to: all that go back to one
configuration. -/
structure Member where
  /-- The client. -/
  client : Client
  /-- The number of the family. -/
  family : Nat

/-- What a program has. -/
structure World where
  /-- What the clients share. -/
  session : Session
  /-- The clients; in the place of one that has been dropped there is none. -/
  members : List (Option Member)
  /-- How many families there are. -/
  families : Nat
  /-- The drafts; in the place of one that has been sent there is none. -/
  drafts : List (Option Draft)

namespace World

/-- A program that has no clients yet. -/
def on (session : Session) : World := ⟨session, [], 0, []⟩

/-- The client of a number, unless there is none. -/
def member? (world : World) (number : Nat) : Option Member := (world.members[number]?).join

/-- The draft of a number, unless there is none. -/
def draft? (world : World) (number : Nat) : Option Draft := (world.drafts[number]?).join

/-- What a program may do. -/
inductive Action where
  /-- Builds a client. -/
  | build (config : Config)
  /-- Copies a client. -/
  | copy (number : Nat)
  /-- Makes a call on a client. -/
  | call (number : Nat) (call : Client.Call)
  /-- Lets the worker of a client finish. -/
  | flush (number : Nat)
  /-- Drops a client. -/
  | drop (number : Nat)
  /-- Starts a request. -/
  | draft (number : Nat)
  /-- Takes a step on a request. -/
  | shape (number : Nat) (call : Draft.Call)
  /-- Sends a request. -/
  | send (around : Surroundings) (number : Nat)
  /-- Lets the worker of a hook take its next step. -/
  | work (hook : Nat)
  /-- Opens an output of its own. -/
  | sink (label : String) (place : Dump.Place) (rule : Dump.Rule)

/-- Adds a client, with the session in which it is new. -/
def join (world : World) (state : Client × Session) (family : Nat) : World :=
  { world with session := state.2, members := world.members ++ [some ⟨state.1, family⟩] }

/-- Puts what calls have made of a client in its place. -/
def put (world : World) (number : Nat) (state : Client × Session) (family : Nat) : World :=
  { world with
    session := state.2
    members := world.members.set number (some ⟨state.1, family⟩) }

/-- Does something.  What cannot be done, because there is no such client or request or because
no client can be built, changes nothing. -/
def step (world : World) : Action → World
  | .build config =>
    match Client.ofConfig config world.session with
    | .ok state => { world.join state world.families with families := world.families + 1 }
    | .error _ => world
  | .copy number =>
    match world.member? number with
    | some member => world.join (member.client.copy world.session) member.family
    | none => world
  | .call number c =>
    match world.member? number with
    | some member => world.put number (member.client.call world.session c) member.family
    | none => world
  | .flush number =>
    match world.member? number with
    | some member => { world with session := member.client.flush world.session }
    | none => world
  | .drop number => { world with members := world.members.set number none }
  | .draft number =>
    match world.member? number with
    | some member => { world with drafts := world.drafts ++ [some member.client.draft] }
    | none => world
  | .shape number c =>
    { world with drafts := world.drafts.modify number (Option.map fun draft => draft.apply c) }
  | .send around number =>
    match world.draft? number with
    | some draft =>
      { world with
        session := (draft.send around world.session).2
        drafts := world.drafts.set number none }
    | none => world
  | .work hook => { world with session := world.session.work hook }
  | .sink label place rule =>
    { world with
      session := { world.session with
        outputs := (world.session.outputs.openSink label place rule).1 } }

/-- Does one thing after the other. -/
def run (world : World) (actions : List Action) : World := actions.foldl step world

@[simp]
theorem run_nil (world : World) : world.run [] = world := rfl

@[simp]
theorem run_cons (world : World) (action : Action) (rest : List Action) :
    world.run (action :: rest) = (world.step action).run rest := rfl

section Lookup

variable (world : World) (number : Nat)

theorem member?_join_of_lt (state : Client × Session) (family : Nat)
    (h : number < world.members.length) :
    (world.join state family).member? number = world.member? number := by
  simp [member?, join, List.getElem?_append_left h]

@[simp]
theorem member?_join_self (state : Client × Session) (family : Nat) :
    (world.join state family).member? world.members.length = some ⟨state.1, family⟩ := by
  simp [member?, join]

theorem lt_of_member? {world : World} {number : Nat} {member : Member}
    (h : world.member? number = some member) : number < world.members.length :=
  lt_of_isSome_join (Option.isSome_of_eq_some h)

/-- A client of a world to which one has been added is that one, or was there before. -/
theorem member?_join {state : Client × Session} {family : Nat} {member : Member}
    (h : (world.join state family).member? number = some member) :
    number < world.members.length ∧ world.member? number = some member ∨
      number = world.members.length ∧ member = ⟨state.1, family⟩ := by
  have hLt := lt_of_member? h
  rcases Nat.lt_or_ge number world.members.length with hOld | hNew
  · rw [world.member?_join_of_lt number state family hOld] at h
    exact Or.inl ⟨hOld, h⟩
  · have hEq : number = world.members.length := by
      simp only [join, List.length_append, List.length_singleton] at hLt
      omega
    subst hEq
    rw [world.member?_join_self state family] at h
    cases h
    exact Or.inr ⟨rfl, rfl⟩

@[simp]
theorem member?_put_self (state : Client × Session) (family : Nat)
    (h : number < world.members.length) :
    (world.put number state family).member? number = some ⟨state.1, family⟩ := by
  simp [member?, put, h]

theorem member?_put_of_ne {other : Nat} (state : Client × Session) (family : Nat)
    (h : number ≠ other) :
    (world.put number state family).member? other = world.member? other := by
  simp [member?, put, List.getElem?_set_ne h]

theorem member?_drop (other : Nat) :
    (world.step (.drop number)).member? other =
      if number = other then none else world.member? other := by
  by_cases h : number = other
  · subst h
    rw [if_pos rfl]
    simp only [step, member?, List.getElem?_set_self']
    cases world.members[number]? <;> rfl
  · simp [step, member?, List.getElem?_set_ne h, h]

end Lookup

/-- Whether an action is one on the client of a number. -/
def Action.isFor (number : Nat) : Action → Bool
  | .call other _ => other == number
  | .drop other => other == number
  | _ => false

theorem Action.isFor_cases {number : Nat} {action : Action} (h : action.isFor number = true) :
    (∃ c, action = .call number c) ∨ action = .drop number := by
  cases action with
  | call other c =>
      have hEq : other = number := by simpa [isFor] using h
      exact Or.inl ⟨c, by rw [hEq]⟩
  | drop other =>
      have hEq : other = number := by simpa [isFor] using h
      exact Or.inr (by rw [hEq])
  | _ => cases h

theorem length_le_step (world : World) (action : Action) :
    world.members.length ≤ (world.step action).members.length := by
  cases action with
  | build config =>
      rw [step]
      split
      · simp [join]
      · exact Nat.le_refl _
  | copy number =>
      rw [step]
      split
      · simp [join]
      · exact Nat.le_refl _
  | call number c =>
      rw [step]
      split
      · simp [put]
      · exact Nat.le_refl _
  | flush number =>
      rw [step]
      split <;> exact Nat.le_refl _
  | drop number => simp [step]
  | draft number =>
      rw [step]
      split <;> exact Nat.le_refl _
  | shape number c => exact Nat.le_refl _
  | send around number =>
      rw [step]
      split <;> exact Nat.le_refl _
  | work hook => exact Nat.le_refl _
  | sink label place rule => exact Nat.le_refl _

/-- What is done to others leaves a client as it is. -/
theorem member?_step_of_not_isFor {world : World} {number : Nat}
    (hLt : number < world.members.length) {action : Action} (h : action.isFor number = false) :
    (world.step action).member? number = world.member? number := by
  cases action with
  | build config =>
      rw [step]
      split
      · exact world.member?_join_of_lt number _ _ hLt
      · rfl
  | copy other =>
      rw [step]
      split
      · exact world.member?_join_of_lt number _ _ hLt
      · rfl
  | call other c =>
      rw [step]
      split
      · exact world.member?_put_of_ne other _ _ (by simpa [Action.isFor] using h)
      · rfl
  | flush other =>
      rw [step]
      split <;> rfl
  | drop other =>
      rw [world.member?_drop other number, if_neg (by simpa [Action.isFor] using h)]
  | draft other =>
      rw [step]
      split <;> rfl
  | shape other c => rfl
  | send around other =>
      rw [step]
      split <;> rfl
  | work hook => rfl
  | sink label place rule => rfl

end World
end Wiretap
