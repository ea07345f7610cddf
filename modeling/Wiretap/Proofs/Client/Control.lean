import Wiretap.Proofs.Client.Fitting

/-!
# Dump control as a machine of two parts

Whether a client is armed is the presence of a hook, and its options lie in a cell
that the hook reads.  Seen from outside there are only a flag and perhaps some
options: every call orders something of them, and what a client has come to is
settled by the orders alone.

* `Client.Order` is what a call may order; `Call.order` is the order of a call,
  which for a file depends on whether it can be opened.
* `Order.arms?` and `Order.fill` are what an order makes of the flag and of the
  options.
* `Client.obeys_call` says that one call follows its order.
* `Client.control_of_callAll` says what a client that has been built comes to by any
  calls.
-/

namespace Wiretap
namespace Client

/-- What a call may order of dump control. -/
inductive Order where
  /-- It leaves dump control alone. -/
  | nothing
  /-- It arms and leaves the options as they are. -/
  | arm
  /-- It disarms. -/
  | disarm
  /-- It replaces the options and arms nothing. -/
  | replace (options : Dump.Options)
  /-- It captures the parts of a preset and arms. -/
  | preset (preset : Dump.Preset)
  /-- It sends records to an output and arms. -/
  | output (output : Dump.Output)
  /-- It has records written in the background and arms. -/
  | background
deriving DecidableEq

namespace Order

/-- Whether an order arms or disarms, if it does either. -/
def arms? : Order → Option Bool
  | .nothing => none
  | .replace _ => none
  | .disarm => some false
  | .arm => some true
  | .preset _ => some true
  | .output _ => some true
  | .background => some true

/-- The options after an order.  What arms starts from the standard options if there are none. -/
def fill (order : Order) (options : Option Dump.Options) : Option Dump.Options :=
  match order with
  | .nothing => options
  | .disarm => options
  | .replace next => some next
  | .arm => some (options.getD .standard)
  | .preset parts => some ((options.getD .standard).apply parts)
  | .output place => some { options.getD .standard with output := some place }
  | .background => some { options.getD .standard with isAsync := true }

/-- What is ordered by trying to send records to a file.  If it cannot be opened, that is
nothing. -/
def ofOpened (opened : Except Disk.Fault (Dump.Outputs × Dump.Output)) : Order :=
  match opened with
  | .ok (_, place) => .output place
  | .error _ => .nothing

end Order

/-- What a call orders of dump control. -/
def Call.order (session : Session) : Call → Order
  | .dump true => .arm
  | .dump false => .disarm
  | .options next => .replace next
  | .preset parts => .preset parts
  | .dumpTo output => .output output
  | .dumpToFile path => .ofOpened (session.outputs.openFile path)
  | .dumpAsync => .background
  | .debugMode => .arm
  | .testMode => .arm
  | .header _ _ => .nothing
  | .headers _ => .nothing
  | .userAgent _ => .nothing
  | .timeout _ => .nothing
  | .proxy _ => .nothing
  | .treat _ => .nothing
  | .logger _ => .nothing

/-- What calls order, one after the other. -/
def orders (client : Client) (session : Session) : List Call → List Order
  | [] => []
  | c :: rest =>
    c.order session :: orders (client.call session c).1 (client.call session c).2 rest

/-- Whether a client is armed, and its options, after an order. -/
structure Obeys (order : Order) (before after : Client × Session) : Prop where
  isArmed : after.1.isArmed = order.arms?.getD before.1.isArmed
  options : after.1.options? after.2 = order.fill (before.1.options? before.2)

section Steps

variable {client : Client} {session : Session}

theorem isArmed_editOptions (change : Dump.Options → Dump.Options) :
    (client.editOptions change session).1.isArmed = true :=
  client.isArmed_arm _

variable (h : client.Fits session)
include h

theorem options?_arm :
    (client.arm session).1.options? (client.arm session).2 =
      some ((client.options? session).getD .standard) := by
  cases hArmed : client.isArmed with
  | true =>
      obtain ⟨options, hOptions⟩ := Option.isSome_iff_exists.1 (h.options hArmed)
      rw [client.arm_of_isArmed session hArmed, hOptions]
      rfl
  | false =>
      rw [client.arm_of_not_isArmed session hArmed]
      exact Session.options?_setOptions_self session _ h.cell

theorem obeys_arm : Obeys .arm (client, session) (client.arm session) :=
  ⟨client.isArmed_arm session, options?_arm h⟩

theorem options?_editOptions (change : Dump.Options → Dump.Options) :
    (client.editOptions change session).1.options? (client.editOptions change session).2 =
      some (change ((client.options? session).getD .standard)) := by
  have hSet := (client.evolves_setOptions session (change (client.currentOptions session))).fits h
  unfold editOptions
  rw [options?_arm hSet]
  show some (((session.setOptions client.cell _).options? client.cell).getD _) = _
  rw [Session.options?_setOptions_self session _ h.cell]
  rfl

theorem obeys_dumpToFile (path : String) :
    Obeys (.ofOpened (session.outputs.openFile path)) (client, session)
      (client.dumpToFile path session) := by
  unfold dumpToFile
  cases hOpen : session.outputs.openFile path with
  | error fault => exact ⟨rfl, rfl⟩
  | ok opened =>
      have hOpened := h.later (Session.confined_outputs (Dump.Outputs.openFile_eq_ok hOpen).1 none)
      exact ⟨isArmed_editOptions _, options?_editOptions hOpened _⟩

theorem obeys_debugMode : Obeys .arm (client, session) (client.debugMode session) := by
  have hTreated := (client.evolves_treat session [.decode]).fits h
  exact ⟨(client.treat [.decode]).isArmed_arm session, options?_arm hTreated⟩

end Steps

/-- A call does what it orders. -/
theorem obeys_call {client : Client} {session : Session} (h : client.Fits session) (c : Call) :
    Obeys (c.order session) (client, session) (client.call session c) := by
  cases c with
  | header name value => exact ⟨rfl, rfl⟩
  | headers list =>
      show Obeys .nothing (client, session) (client.setHeaders list, session)
      rw [client.setHeaders_eq list]
      exact ⟨rfl, rfl⟩
  | userAgent value => exact ⟨rfl, rfl⟩
  | timeout limit => exact ⟨rfl, rfl⟩
  | proxy proxy =>
      show Obeys .nothing (client, session) (client.setProxy proxy session)
      cases hUsable : proxy.isUsable with
      | true =>
          rw [client.setProxy_of_isUsable session hUsable]
          exact ⟨rfl, rfl⟩
      | false =>
          rw [client.setProxy_of_not_isUsable session hUsable]
          exact ⟨rfl, rfl⟩
  | treat changes => exact ⟨rfl, rfl⟩
  | logger logger => exact ⟨rfl, rfl⟩
  | dump enable =>
      cases enable with
      | true => exact obeys_arm h
      | false => exact ⟨rfl, rfl⟩
  | options options => exact ⟨rfl, Session.options?_setOptions_self session options h.cell⟩
  | preset preset => exact ⟨isArmed_editOptions _, options?_editOptions h _⟩
  | dumpTo output => exact ⟨isArmed_editOptions _, options?_editOptions h _⟩
  | dumpToFile path => exact obeys_dumpToFile h path
  | dumpAsync =>
      exact ⟨isArmed_editOptions _,
        options?_editOptions h fun options => { options with isAsync := true }⟩
  | debugMode => exact obeys_debugMode h
  | testMode => exact ⟨(obeys_debugMode h).isArmed, (obeys_debugMode h).options⟩

/-- An armed client keeps its hook through every call but the one that disarms it, and no other
hook is made for it. -/
theorem hook_call_of_isArmed {client : Client} (hArmed : client.isArmed = true)
    (session : Session) {c : Call} (hc : c ≠ .dump false) :
    (client.call session c).1.transport.hook = client.transport.hook ∧
      (client.call session c).2.hooks = session.hooks := by
  have hEdit : ∀ (change : Dump.Options → Dump.Options) (session : Session),
      (client.editOptions change session).1.transport.hook = client.transport.hook ∧
        (client.editOptions change session).2.hooks = session.hooks := by
    intro change session
    rw [editOptions, client.arm_of_isArmed _ hArmed]
    exact ⟨rfl, rfl⟩
  have hDebug : (client.debugMode session).1.transport.hook = client.transport.hook ∧
      (client.debugMode session).2.hooks = session.hooks := by
    have hTreated : (client.treat [.decode]).isArmed = true := hArmed
    rw [debugMode, (client.treat [.decode]).arm_of_isArmed session hTreated]
    exact ⟨rfl, rfl⟩
  cases c with
  | header name value => exact ⟨rfl, rfl⟩
  | headers list =>
      rw [call, client.setHeaders_eq list]
      exact ⟨rfl, rfl⟩
  | userAgent value => exact ⟨rfl, rfl⟩
  | timeout limit => exact ⟨rfl, rfl⟩
  | proxy proxy =>
      cases hUsable : proxy.isUsable with
      | true =>
          rw [call, client.setProxy_of_isUsable session hUsable]
          exact ⟨rfl, rfl⟩
      | false =>
          rw [call, client.setProxy_of_not_isUsable session hUsable]
          exact ⟨rfl, rfl⟩
  | treat changes => exact ⟨rfl, rfl⟩
  | logger logger => exact ⟨rfl, rfl⟩
  | dump enable =>
      cases enable with
      | true =>
          rw [call, client.arm_of_isArmed session hArmed]
          exact ⟨rfl, rfl⟩
      | false => exact absurd rfl hc
  | options options => exact ⟨rfl, rfl⟩
  | preset preset => exact hEdit _ session
  | dumpTo output => exact hEdit _ session
  | dumpToFile path =>
      rw [call, dumpToFile]
      cases session.outputs.openFile path with
      | error fault => exact ⟨rfl, rfl⟩
      | ok opened => exact hEdit _ _
  | dumpAsync => exact hEdit _ session
  | debugMode => exact hDebug
  | testMode => exact hDebug

section Runs

variable {client : Client} {session : Session}

theorem callAll_cons (client : Client) (session : Session) (c : Call) (rest : List Call) :
    client.callAll session (c :: rest) =
      (client.call session c).1.callAll (client.call session c).2 rest := rfl

/-- Whether a client is armed is settled by the last order that arms or disarms. -/
theorem isArmed_callAll (h : client.Fits session) (calls : List Call) :
    (client.callAll session calls).1.isArmed =
      ((client.orders session calls).filterMap Order.arms?).getLast?.getD client.isArmed := by
  induction calls generalizing client session with
  | nil => rfl
  | cons c rest ih =>
      have hFits := (client.evolves_call session c).fits h
      rw [callAll_cons, ih hFits, (obeys_call h c).isArmed, orders, List.filterMap_cons]
      cases (c.order session).arms? with
      | none => rfl
      | some armed => simp [List.getLast?_cons]

/-- The options are what the orders make of them, one after the other. -/
theorem options?_callAll (h : client.Fits session) (calls : List Call) :
    (client.callAll session calls).1.options? (client.callAll session calls).2 =
      (client.orders session calls).foldl (fun options order => order.fill options)
        (client.options? session) := by
  induction calls generalizing client session with
  | nil => rfl
  | cons c rest ih =>
      have hFits := (client.evolves_call session c).fits h
      rw [callAll_cons, ih hFits, (obeys_call h c).options]
      rfl

/-- As long as an armed client is not disarmed, it keeps its hook, and no other is made for it. -/
theorem hook_callAll_of_isArmed (hArmed : client.isArmed = true) (session : Session)
    {calls : List Call} (hCalls : ∀ c ∈ calls, c ≠ .dump false) :
    (client.callAll session calls).1.transport.hook = client.transport.hook ∧
      (client.callAll session calls).2.hooks = session.hooks := by
  induction calls generalizing client session with
  | nil => exact ⟨rfl, rfl⟩
  | cons c rest ih =>
      obtain ⟨hHook, hHooks⟩ := hook_call_of_isArmed hArmed session (hCalls c (by simp))
      have hArmed' : (client.call session c).1.isArmed = true := by
        rw [isArmed, Transport.isArmed, hHook]
        exact hArmed
      obtain ⟨hHook', hHooks'⟩ := ih hArmed' (client.call session c).2
        fun c' hMem => hCalls c' (List.mem_cons_of_mem c hMem)
      exact ⟨hHook'.trans hHook, hHooks'.trans hHooks⟩

/-- An exchange of an armed client follows the options that the client has at its start. -/
theorem run_of_isArmed (h : client.Fits session) (hArmed : client.isArmed = true) :
    ∃ hook options, client.transport.hook = some hook ∧
      session.hookCell? hook = some client.cell ∧ client.options? session = some options ∧
        ∀ around request,
          Exchange.run around client.draft.handle request session =
            Exchange.perform around client.transport.pool client.transport.treatment
              (some (hook, options)) request session := by
  obtain ⟨hook, hHook⟩ := Option.isSome_iff_exists.1 hArmed
  obtain ⟨options, hOptions⟩ := Option.isSome_iff_exists.1 (h.options hArmed)
  refine ⟨hook, options, hHook, h.hook hook hHook, hOptions, ?_⟩
  intro around request
  have hPolicy := h.policy? hHook
  rw [hOptions] at hPolicy
  show Exchange.perform around client.transport.pool client.transport.treatment
    (session.policy? client.transport.hook) request session = _
  rw [hPolicy]
  rfl

end Runs

/-- What a client that has been built comes to by any calls.  It is armed if the last order that
arms or disarms does arm, and otherwise as it was built; its options are what the orders make of
those that it was built with.  As long as it is armed, it has options in the cell that it was
built with, its hook reads that cell, and its exchanges follow them.  From when it is armed until
it is disarmed, it has one and the same hook. -/
theorem control_of_callAll {config : Config} {start session : Session} {client : Client}
    (h : ofConfig config start = .ok (client, session)) (calls : List Call) :
    let orders := client.orders session calls
    let last := client.callAll session calls
    last.1.isArmed = (orders.filterMap Order.arms?).getLast?.getD client.isArmed ∧
      last.1.options? last.2 =
        orders.foldl (fun options order => order.fill options) (client.options? session) ∧
      last.1.cell = client.cell ∧
      (last.1.isArmed = true →
        ∃ hook options, last.1.transport.hook = some hook ∧
          last.2.hookCell? hook = some last.1.cell ∧ last.1.options? last.2 = some options ∧
            ∀ around request,
              Exchange.run around last.1.draft.handle request last.2 =
                Exchange.perform around last.1.transport.pool last.1.transport.treatment
                  (some (hook, options)) request last.2) ∧
      ∀ first second, calls = first ++ second →
        (client.callAll session first).1.isArmed = true → (∀ c ∈ second, c ≠ .dump false) →
          last.1.transport.hook = (client.callAll session first).1.transport.hook ∧
            last.2.hooks = (client.callAll session first).2.hooks := by
  have hFits : client.Fits session := (joins_ofConfig h).1.fits
  have hEvolves := client.evolves_callAll session calls
  refine ⟨isArmed_callAll hFits calls, options?_callAll hFits calls, hEvolves.cell, ?_, ?_⟩
  · exact fun hArmed => run_of_isArmed (hEvolves.fits hFits) hArmed
  · rintro first second rfl hArmed hSecond
    rw [callAll_append]
    exact hook_callAll_of_isArmed hArmed _ hSecond

/-- A client of the standard configuration has nothing of its own but its cell and its jar. -/
theorem ofConfig_standard (session : Session) :
    ofConfig .standard session =
      .ok (⟨⟨⟨Config.standard.transport, Config.standard.timeouts, some session.jars.length⟩,
            Config.standard.transport, Config.standard.timeouts, some session.jars.length,
            .standard, none⟩,
          session.cells.length, [], .silent, Config.standard.timeouts.requestBound?⟩,
        (session.addJar.1.addCell none).1) := rfl

/-- A client of the standard configuration is given options, armed by a preset, disarmed, and
armed again by a call that leaves the parts as they are. -/
theorem control_of_callAll_standard :
    ∃ client session, ofConfig .standard (.onDisk (.ofHome [])) = .ok (client, session) ∧
      let calls : List Call :=
        [.options .empty, .preset .head, .dumpTo .stderr, .dump false, .dumpAsync]
      (client.callAll session calls).1.isArmed = true ∧
        (client.callAll session calls).1.options? (client.callAll session calls).2 =
          some ⟨Dump.Preset.head.flags, true, some .stderr⟩ := by
  have hBuilt := ofConfig_standard (.onDisk (.ofHome []))
  refine ⟨_, _, hBuilt, ?_, ?_⟩
  · exact (control_of_callAll hBuilt _).1.trans rfl
  · exact (control_of_callAll hBuilt _).2.1.trans rfl

end Client
end Wiretap
