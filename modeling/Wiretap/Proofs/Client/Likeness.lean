import Wiretap.Proofs.Client.Control

/-!
# Clients that are alike

Two clients may live in different sessions and yet be configured alike.  Then a
call on both keeps them so, whatever else the two sessions hold: of a session, a
call reads the cell of its own client and the directories, and no more.

* `Client.State` is the state of a client without what tells it from others.
* `Output.Alike`, `Options.Alike` and `State.Alike` compare across sessions.  A file that
  is opened twice is not the same sink, so handles to it are compared by where they
  lead.
* `Client.alike_call` says that a call on both of two clients that are alike keeps
  them alike; `Client.Fits.state_copy` says that a copy has the state of its source.
-/

namespace Wiretap

/-- What is related is also related in any wider sense. -/
theorem rel_of_imp {α β : Type} {narrow wide : α → β → Prop} (h : ∀ a b, narrow a b → wide a b)
    {left : Option α} {right : Option β} (hRel : Option.Rel narrow left right) :
    Option.Rel wide left right := by
  cases hRel with
  | none => exact .none
  | some hRel => exact .some (h _ _ hRel)

namespace Dump

variable {left right : Outputs}

/-- Two handles are alike, each in outputs of its own, if they are the same, or have one label and
lead to sinks of one nature. -/
def Output.Alike (left right : Outputs) (output other : Output) : Prop :=
  output = other ∨
    output.label = other.label ∧
      ∃ nature, left.natures[output.sink]? = some nature ∧ right.natures[other.sink]? = some nature

theorem Output.Alike.later {left' right' : Outputs} (hLeft : Outputs.Lasts left left')
    (hRight : Outputs.Lasts right right') {output other : Output}
    (h : Output.Alike left right output other) : Output.Alike left' right' output other := by
  rcases h with hSame | ⟨hLabel, nature, hNature, hNature'⟩
  · exact Or.inl hSame
  · exact Or.inr ⟨hLabel, nature, hLeft.nature hNature, hRight.nature hNature'⟩

/-- Options are alike if they differ in their outputs at most, and these are alike. -/
structure Options.Alike (left right : Outputs) (options other : Options) : Prop where
  flags : options.flags = other.flags
  isAsync : options.isAsync = other.isAsync
  output : Option.Rel (Output.Alike left right) options.output other.output

theorem Options.Alike.refl (left right : Outputs) (options : Options) :
    Options.Alike left right options options where
  flags := rfl
  isAsync := rfl
  output := by
    cases options.output with
    | none => exact .none
    | some output => exact .some (Or.inl rfl)

theorem Options.Alike.later {left' right' : Outputs} (hLeft : Outputs.Lasts left left')
    (hRight : Outputs.Lasts right right') {options other : Options}
    (h : Options.Alike left right options other) : Options.Alike left' right' options other where
  flags := h.flags
  isAsync := h.isAsync
  output := rel_of_imp (fun _ _ hOutput => hOutput.later hLeft hRight) h.output

end Dump

namespace Client

/-- A client without what it has to itself: its cell and its hook. -/
def bare (client : Client) : Client :=
  { client with transport := { client.transport with hook := none }, cell := 0 }

/-- The state of a client, without what tells it from others. -/
structure State where
  /-- The client without its cell and its hook. -/
  bare : Client
  /-- Whether it is armed. -/
  isArmed : Bool
  /-- Its dump options, if there are any yet. -/
  options : Option Dump.Options
deriving DecidableEq

/-- The state of a client. -/
def state (client : Client) (session : Session) : State :=
  ⟨client.bare, client.isArmed, client.options? session⟩

/-- States are alike if they differ in the outputs of their options at most, and these are
alike. -/
structure State.Alike (left right : Dump.Outputs) (state other : State) : Prop where
  bare : state.bare = other.bare
  isArmed : state.isArmed = other.isArmed
  options : Option.Rel (Dump.Options.Alike left right) state.options other.options

theorem State.Alike.refl (left right : Dump.Outputs) (state : State) :
    State.Alike left right state state where
  bare := rfl
  isArmed := rfl
  options := by
    cases state.options with
    | none => exact .none
    | some options => exact .some (.refl left right options)

theorem State.Alike.later {left right left' right' : Dump.Outputs}
    (hLeft : Dump.Outputs.Lasts left left') (hRight : Dump.Outputs.Lasts right right')
    {state other : State} (h : State.Alike left right state other) :
    State.Alike left' right' state other where
  bare := h.bare
  isArmed := h.isArmed
  options := rel_of_imp (fun _ _ hOptions => hOptions.later hLeft hRight) h.options

/-- Orders are alike if they are the same, or send records to outputs that are alike. -/
def Order.Alike (left right : Dump.Outputs) (order other : Order) : Prop :=
  order = other ∨
    ∃ place place', order = .output place ∧ other = .output place' ∧
      Dump.Output.Alike left right place place'

namespace Order

variable {left right : Dump.Outputs} {order other : Order}

theorem Alike.arms? (h : Order.Alike left right order other) : order.arms? = other.arms? := by
  rcases h with rfl | ⟨place, place', rfl, rfl, -⟩
  · rfl
  · rfl

/-- What alike orders start from is alike. -/
theorem alike_getD {options others : Option Dump.Options}
    (h : Option.Rel (Dump.Options.Alike left right) options others) :
    Dump.Options.Alike left right (options.getD .standard) (others.getD .standard) := by
  cases h with
  | none => exact .refl left right .standard
  | some h => exact h

/-- Alike orders make alike options of alike ones. -/
theorem Alike.fill (h : Order.Alike left right order other) {options others : Option Dump.Options}
    (hOptions : Option.Rel (Dump.Options.Alike left right) options others) :
    Option.Rel (Dump.Options.Alike left right) (order.fill options) (other.fill others) := by
  have hStart := alike_getD hOptions
  rcases h with rfl | ⟨place, place', rfl, rfl, hPlace⟩
  · cases order with
    | nothing => exact hOptions
    | disarm => exact hOptions
    | arm => exact .some hStart
    | replace options => exact .some (.refl left right options)
    | preset parts => exact .some ⟨rfl, hStart.isAsync, hStart.output⟩
    | output place => exact .some ⟨hStart.flags, hStart.isAsync, .some (Or.inl rfl)⟩
    | background => exact .some ⟨hStart.flags, rfl, hStart.output⟩
  · exact .some ⟨hStart.flags, hStart.isAsync, .some hPlace⟩

end Order

theorem bare_arm (client : Client) (session : Session) :
    (client.arm session).1.bare = client.bare := by
  cases hArmed : client.isArmed with
  | true => rw [client.arm_of_isArmed session hArmed]
  | false =>
      rw [client.arm_of_not_isArmed session hArmed]
      rfl

theorem bare_dumpToFile (client : Client) (session : Session) (path : String) :
    (client.dumpToFile path session).1.bare = client.bare := by
  unfold dumpToFile
  split
  · exact bare_arm _ _
  · rfl

theorem bare_debugMode (client : Client) (session : Session) :
    (client.debugMode session).1.bare =
      (((client.bare.treat [.decode]).setLogger (some (.writer .stdout))).setUserAgent
        chromeAgent) := by
  have hArm := (client.treat [.decode]).bare_arm session
  show (((client.treat [.decode]).arm session).1.bare.setLogger
    (some (.writer .stdout))).setUserAgent chromeAgent = _
  rw [hArm]
  rfl

/-- What a call makes of a client, but for its cell and its hook, does not depend on these, and not
on the session. -/
theorem bare_call (client : Client) (session other : Session) (c : Call) :
    (client.call session c).1.bare = (client.bare.call other c).1.bare := by
  cases c with
  | header name value => rfl
  | headers list =>
      show (client.setHeaders list).bare = (client.bare.setHeaders list).bare
      rw [client.setHeaders_eq list, client.bare.setHeaders_eq list]
      rfl
  | userAgent value => rfl
  | timeout limit => rfl
  | proxy proxy =>
      show (client.setProxy proxy session).1.bare = (client.bare.setProxy proxy other).1.bare
      cases hUsable : proxy.isUsable with
      | true =>
          rw [client.setProxy_of_isUsable session hUsable,
            client.bare.setProxy_of_isUsable other hUsable]
          rfl
      | false =>
          rw [client.setProxy_of_not_isUsable session hUsable,
            client.bare.setProxy_of_not_isUsable other hUsable]
          rfl
  | treat changes => rfl
  | logger logger => rfl
  | dump enable =>
      cases enable with
      | true => exact (client.bare_arm session).trans (client.bare.bare_arm other).symm
      | false => rfl
  | options options => rfl
  | preset preset => exact (client.bare_arm _).trans (client.bare.bare_arm _).symm
  | dumpTo output => exact (client.bare_arm _).trans (client.bare.bare_arm _).symm
  | dumpToFile path =>
      have hFile := client.bare_dumpToFile session path
      exact hFile.trans (client.bare.bare_dumpToFile other path).symm
  | dumpAsync => exact (client.bare_arm _).trans (client.bare.bare_arm _).symm
  | debugMode => exact (client.bare_debugMode session).trans (client.bare.bare_debugMode other).symm
  | testMode =>
      have hDebug := (client.bare_debugMode session).trans (client.bare.bare_debugMode other).symm
      show (client.debugMode session).1.bare.treat [.discard] =
        (client.bare.debugMode other).1.bare.treat [.discard]
      rw [hDebug]

theorem outputs_arm (client : Client) (session : Session) :
    (client.arm session).2.outputs = session.outputs := by
  cases hArmed : client.isArmed with
  | true => rw [client.arm_of_isArmed session hArmed]
  | false =>
      rw [client.arm_of_not_isArmed session hArmed]
      rfl

theorem outputs_editOptions (client : Client) (session : Session)
    (change : Dump.Options → Dump.Options) :
    (client.editOptions change session).2.outputs = session.outputs :=
  client.outputs_arm _

/-- Only a policy on proxies that is of no use and the creation of a file can be heard of. -/
theorem outputs_call (client : Client) (session : Session) {c : Call}
    (hProxy : ∀ proxy, c ≠ .proxy proxy) (hFile : ∀ path, c ≠ .dumpToFile path) :
    (client.call session c).2.outputs = session.outputs := by
  cases c with
  | proxy proxy => exact absurd rfl (hProxy proxy)
  | dumpToFile path => exact absurd rfl (hFile path)
  | dump enable =>
      cases enable with
      | true => exact client.outputs_arm session
      | false => rfl
  | preset preset => exact client.outputs_editOptions session _
  | dumpTo output =>
      exact client.outputs_editOptions session fun options => { options with output := some output }
  | dumpAsync =>
      exact client.outputs_editOptions session fun options => { options with isAsync := true }
  | debugMode => exact (client.treat [.decode]).outputs_arm session
  | testMode => exact (client.treat [.decode]).outputs_arm session
  | _ => rfl

section TwoSessions

variable {client other : Client} {session session' : Session}

/-- On the same directories a call orders alike of any two clients. -/
theorem alike_order (client other : Client)
    (hGround : session.outputs.disk.ground = session'.outputs.disk.ground) (c : Call) :
    Order.Alike (client.call session c).2.outputs (other.call session' c).2.outputs
      (c.order session) (c.order session') := by
  cases c with
  | dumpToFile path =>
      show Order.Alike (client.dumpToFile path session).2.outputs
        (other.dumpToFile path session').2.outputs
        (.ofOpened (session.outputs.openFile path)) (.ofOpened (session'.outputs.openFile path))
      unfold dumpToFile dumpTo
      rcases Dump.Outputs.openFile_agrees hGround path with
        ⟨fault, fault', hFault, hFault'⟩ |
          ⟨next, place, next', place', nature, hOpen, hOpen', hLabel, hNature, hNature'⟩
      · rw [hFault, hFault']
        exact Or.inl rfl
      · rw [hOpen, hOpen']
        refine Or.inr ⟨place, place', rfl, rfl, Or.inr ⟨hLabel, nature, ?_, ?_⟩⟩
        · rw [outputs_editOptions]
          exact hNature
        · rw [outputs_editOptions]
          exact hNature'
  | dump enable => cases enable <;> exact Or.inl rfl
  | _ => exact Or.inl rfl

/-- A call on both of two clients that are alike keeps them alike. -/
theorem alike_call (hFits : client.Fits session) (hFits' : other.Fits session')
    (hGround : session.outputs.disk.ground = session'.outputs.disk.ground)
    (h : State.Alike session.outputs session'.outputs (client.state session)
      (other.state session')) (c : Call) :
    State.Alike (client.call session c).2.outputs (other.call session' c).2.outputs
      ((client.call session c).1.state (client.call session c).2)
      ((other.call session' c).1.state (other.call session' c).2) := by
  have hOrder := alike_order client other hGround c
  have hObeys := obeys_call hFits c
  have hObeys' := obeys_call hFits' c
  have hLater := h.later (client.evolves_call session c).confined.outputs
    (other.evolves_call session' c).confined.outputs
  refine ⟨?_, ?_, ?_⟩
  · show (client.call session c).1.bare = (other.call session' c).1.bare
    have hBare : client.bare = other.bare := h.bare
    rw [client.bare_call session session c, hBare, ← other.bare_call session' session c]
  · show (client.call session c).1.isArmed = (other.call session' c).1.isArmed
    have hArmed : client.isArmed = other.isArmed := h.isArmed
    rw [hObeys.isArmed, hObeys'.isArmed, hOrder.arms?, hArmed]
  · show Option.Rel _ ((client.call session c).1.options? _) ((other.call session' c).1.options? _)
    rw [hObeys.options, hObeys'.options]
    exact hOrder.fill hLater.options

end TwoSessions

/-- A copy has the state of its source. -/
theorem Fits.state_copy {client : Client} {session : Session} (h : client.Fits session) :
    (client.copy session).1.state (client.copy session).2 = client.state session := by
  have hOptions := session.options?_addCell_self (client.options? session)
  cases hArmed : client.isArmed with
  | false =>
      rw [h.copy_of_not_isArmed hArmed]
      simp only [state, hArmed]
      exact congrArg (State.mk client.bare false) hOptions
  | true =>
      rw [h.copy_of_isArmed hArmed]
      simp only [state, hArmed]
      exact congrArg (State.mk client.bare true) hOptions

end Client
end Wiretap
