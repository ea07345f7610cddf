import Wiretap.Client.Building
import Wiretap.Proofs.Session.Confined

/-!
# Clients that fit their session

A client and its hook refer to the same cell, one directly and one through the
session.  Nothing in their types keeps these references together; it is shown
here that every operation does.

* `Client.Fits` is the invariant.
* `Client.Evolves` is what any call may do to a client and its session, and
  `Client.evolves_call` says that each call does no more.
* `Client.Joins` is what it takes for a client to be new in a session;
  `Client.joins_ofConfig` and `Client.joins_copy` say that a client that has been
  built, or copied, is.
-/

namespace Wiretap
namespace Client

/-- A client fits a session: its cell and its jar are there, its hook reads its cell and finds
options in it, and its pool is the one that its settings give. -/
structure Fits (client : Client) (session : Session) : Prop where
  cell : client.cell < session.cells.length
  hook : ∀ hook, client.transport.hook = some hook → session.hookCell? hook = some client.cell
  options : client.isArmed = true → (client.options? session).isSome = true
  pool : Pool.build? client.transport.config client.transport.timeouts client.transport.jar =
    .ok client.transport.pool
  jar : ∀ jar, client.transport.jar = some jar → jar < session.jars.length

namespace Fits

variable {client : Client} {session : Session}

/-- A client fits whatever its session becomes by the doings of others. -/
theorem later (h : client.Fits session) {target : Option Nat} {next : Session}
    (hNext : Session.Confined target session next) : client.Fits next where
  cell := Nat.lt_of_lt_of_le h.cell hNext.cells
  hook hook hHook := hNext.hookCell? (h.hook hook hHook)
  options hArmed := hNext.filled client.cell (h.options hArmed)
  pool := h.pool
  jar jar hJar := Nat.lt_of_lt_of_le (h.jar jar hJar) hNext.jars

/-- The pool of a client that fits is settled by its settings. -/
theorem pool_eq (h : client.Fits session) :
    client.transport.pool =
      ⟨client.transport.config, client.transport.timeouts, client.transport.jar⟩ :=
  (Pool.build?_eq_ok_iff.1 h.pool).2

/-- What a request of an armed client reads is what is in the cell of the client. -/
theorem policy? (h : client.Fits session) {hook : Nat} (hHook : client.transport.hook = some hook) :
    session.policy? client.transport.hook =
      (client.options? session).map fun options => (hook, options) := by
  rw [hHook]
  exact Session.policy?_of_hookCell? (h.hook hook hHook)

end Fits

/-- Letting the worker of a client finish changes nothing but the outputs and its queue. -/
theorem confined_flush (client : Client) (session : Session) :
    Session.Confined none session (client.flush session) := by
  unfold flush
  split
  next hook _ => exact session.confined_drain hook
  · exact .refl none session

/-- Calls on a client have turned one state of it into another: it keeps its cell and its jar,
nothing has changed in the session but the options in that cell, and it fits if it did before. -/
structure Evolves (before after : Client × Session) : Prop where
  cell : after.1.cell = before.1.cell
  jar : after.1.transport.jar = before.1.transport.jar
  confined : Session.Confined (some before.1.cell) before.2 after.2
  fits : before.1.Fits before.2 → after.1.Fits after.2

namespace Evolves

theorem refl (state : Client × Session) : Evolves state state :=
  ⟨rfl, rfl, .refl _ _, id⟩

theorem trans {first second third : Client × Session} (h : Evolves first second)
    (h' : Evolves second third) : Evolves first third where
  cell := h'.cell.trans h.cell
  jar := h'.jar.trans h.jar
  confined := h.confined.trans (h.cell ▸ h'.confined)
  fits hFits := h'.fits (h.fits hFits)

end Evolves

variable (client : Client) (session : Session)

/-- What is done to the session alone, and to no cell of it, leaves the client as it is. -/
theorem evolves_session {later : Session} (h : Session.Confined none session later) :
    Evolves (client, session) (client, later) :=
  ⟨rfl, rfl, h.widen _, fun hFits => hFits.later h⟩

/-- Headers, the bound on time, the logger and the treatment of bodies are the client's own. -/
theorem evolves_own (headers : List (String × String)) (timeout : Option Duration)
    (logger : Logger) (treatment : Treatment) :
    Evolves (client, session)
      ({ client with
          transport := { client.transport with treatment := treatment }
          headers := headers
          timeout := timeout
          logger := logger },
        session) where
  cell := rfl
  jar := rfl
  confined := .refl _ _
  fits h := ⟨h.cell, h.hook, h.options, h.pool, h.jar⟩

theorem evolves_setHeader (name value : String) :
    Evolves (client, session) (client.setHeader name value, session) :=
  client.evolves_own session _ _ _ _

theorem setHeaders_eq (list : List (String × String)) :
    client.setHeaders list =
      { client with
        headers := list.foldl (fun headers header => withHeader headers header.1 header.2)
          client.headers } := by
  induction list generalizing client with
  | nil => rfl
  | cons header rest ih => exact ih (client.setHeader header.1 header.2)

theorem evolves_setHeaders (list : List (String × String)) :
    Evolves (client, session) (client.setHeaders list, session) := by
  rw [client.setHeaders_eq list]
  exact client.evolves_own session _ _ _ _

theorem evolves_treat (changes : List Treatment.Change) :
    Evolves (client, session) (client.treat changes, session) :=
  client.evolves_own session _ _ _ _

/-- What cannot be done leads to a warning and a message to the logger. -/
theorem evolves_complain (warning : Dump.Warning) (message : String) :
    Evolves (client, session) (client, client.report message (session.warn warning)) := by
  have hWarned := session.confined_warn warning none
  have hReported := Session.confined_outputs
    (client.logger.lasts_log message (session.warn warning).outputs) none
  exact client.evolves_session session (hWarned.trans hReported)

/-- A new policy on proxies comes with a pool that follows it. -/
theorem setProxy_of_isUsable {proxy : Config.Proxy} (h : proxy.isUsable = true) :
    client.setProxy proxy session =
      let config := { client.transport.config with proxy := proxy }
      ({ client with
          transport := { client.transport with
            pool := ⟨config, client.transport.timeouts, client.transport.jar⟩
            config := config } },
        session) := by
  simp [setProxy, Transport.setProxy, Pool.build?, h, bind, Except.bind, pure, Except.pure]

/-- A policy on proxies that is of no use is reported. -/
theorem setProxy_of_not_isUsable {proxy : Config.Proxy} (h : proxy.isUsable = false) :
    client.setProxy proxy session =
      (client,
        client.report
          ("set proxy error: " ++ (Failure.unbuildable (Pool.proxyReason proxy)).message)
          (session.warn .proxyRejected)) := by
  simp [setProxy, Transport.setProxy, Pool.build?, h, bind, Except.bind]

theorem evolves_setProxy (proxy : Config.Proxy) :
    Evolves (client, session) (client.setProxy proxy session) := by
  cases hUsable : proxy.isUsable with
  | false =>
      rw [client.setProxy_of_not_isUsable session hUsable]
      exact client.evolves_complain session .proxyRejected _
  | true =>
      rw [client.setProxy_of_isUsable session hUsable]
      refine ⟨rfl, rfl, .refl _ _, fun h => ⟨h.cell, h.hook, h.options, ?_, h.jar⟩⟩
      exact Pool.build?_eq_ok_iff.2 ⟨hUsable, rfl⟩

theorem evolves_disarm : Evolves (client, session) (client.disarm, session) where
  cell := rfl
  jar := rfl
  confined := .refl _ _
  fits h := ⟨h.cell, by rintro hook ⟨⟩, by rintro ⟨⟩, h.pool, h.jar⟩

theorem evolves_setOptions (options : Dump.Options) :
    Evolves (client, session) (client, client.setOptions options session) :=
  have hConfined := session.confined_setOptions client.cell options
  ⟨rfl, rfl, hConfined, fun h => h.later hConfined⟩

theorem arm_of_isArmed (h : client.isArmed = true) : client.arm session = (client, session) := by
  rw [arm, if_pos h]

/-- A client that was not armed gets options, unless it has some, and then a hook. -/
theorem arm_of_not_isArmed (h : client.isArmed = false) :
    client.arm session =
      let filled := client.setOptions (client.currentOptions session) session
      ({ client with transport := { client.transport with hook := some session.hooks.length } },
        (filled.attachHook client.cell).1) := by
  have hTransport : client.transport.isArmed = false := h
  simp [arm, h, Transport.attach, hTransport, Session.attachHook, setOptions, Session.setOptions]

theorem evolves_arm : Evolves (client, session) (client.arm session) := by
  cases hArmed : client.isArmed with
  | true =>
      rw [client.arm_of_isArmed session hArmed]
      exact .refl _
  | false =>
      rw [client.arm_of_not_isArmed session hArmed]
      have hFilled := session.confined_setOptions client.cell (client.currentOptions session)
      have hAttached := hFilled.trans (Session.confined_attachHook _ client.cell _)
      refine ⟨rfl, rfl, hAttached, fun h => ?_⟩
      refine ⟨(h.later hAttached).cell, ?_, ?_, h.pool, (h.later hAttached).jar⟩
      · rintro hook ⟨⟩
        exact Session.hookCell?_attachHook_self _ client.cell
      · intro _
        show ((client.setOptions _ session).options? client.cell).isSome = true
        rw [setOptions, Session.options?_setOptions_self session _ h.cell]
        rfl

theorem evolves_editOptions (change : Dump.Options → Dump.Options) :
    Evolves (client, session) (client.editOptions change session) :=
  (client.evolves_setOptions session _).trans (client.evolves_arm _)

theorem evolves_dumpTo (output : Dump.Output) :
    Evolves (client, session) (client.dumpTo output session) :=
  client.evolves_editOptions session fun options => { options with output := some output }

theorem evolves_dumpAsync : Evolves (client, session) (client.dumpAsync session) :=
  client.evolves_editOptions session fun options => { options with isAsync := true }

/-- A file is opened before the options are changed. -/
theorem evolves_dumpTo_opened {outputs : Dump.Outputs}
    (h : Dump.Outputs.Lasts session.outputs outputs) (output : Dump.Output) :
    Evolves (client, session) (client.dumpTo output { session with outputs := outputs }) :=
  (client.evolves_session session (Session.confined_outputs h none)).trans
    (client.evolves_dumpTo _ output)

theorem evolves_dumpToFile (path : String) :
    Evolves (client, session) (client.dumpToFile path session) := by
  unfold dumpToFile
  split
  next outputs output hOpen =>
    exact client.evolves_dumpTo_opened session (Dump.Outputs.openFile_eq_ok hOpen).1 output
  next fault _ =>
    exact client.evolves_complain session .fileNotCreated (fileReport fault)

theorem evolves_debugMode : Evolves (client, session) (client.debugMode session) := by
  unfold debugMode
  have hArm := (client.evolves_treat session [.decode]).trans (Client.evolves_arm _ session)
  exact hArm.trans (Client.evolves_own _ _ _ _ _ _)

theorem evolves_testMode : Evolves (client, session) (client.testMode session) :=
  (client.evolves_debugMode session).trans (Client.evolves_treat _ _ _)

/-- No call does more than that. -/
theorem evolves_call (c : Call) : Evolves (client, session) (client.call session c) := by
  cases c with
  | header name value => exact client.evolves_setHeader session name value
  | headers list => exact client.evolves_setHeaders session list
  | userAgent value => exact client.evolves_setHeader session _ value
  | timeout limit => exact client.evolves_own session _ _ _ _
  | proxy proxy => exact client.evolves_setProxy session proxy
  | treat changes => exact client.evolves_treat session changes
  | logger logger => exact client.evolves_own session _ _ _ _
  | dump enable =>
      cases enable with
      | true => exact client.evolves_arm session
      | false => exact client.evolves_disarm session
  | options options => exact client.evolves_setOptions session options
  | preset preset => exact client.evolves_editOptions session _
  | dumpTo output => exact client.evolves_dumpTo session output
  | dumpToFile path => exact client.evolves_dumpToFile session path
  | dumpAsync => exact client.evolves_dumpAsync session
  | debugMode => exact client.evolves_debugMode session
  | testMode => exact client.evolves_testMode session

theorem evolves_callAll (calls : List Call) :
    Evolves (client, session) (client.callAll session calls) := by
  induction calls generalizing client session with
  | nil => exact .refl _
  | cons c rest ih => exact (client.evolves_call session c).trans (ih _ _)

theorem evolves_startDump (dump : Config.Dump) :
    Evolves (client, session) (client.startDump dump session) := by
  unfold startDump
  split
  next fault _ =>
    exact client.evolves_complain session .outputNotOpened (fileReport fault)
  next outputs output hOpen =>
    have hOpened := client.evolves_session session
      (Session.confined_outputs (Dump.Target.lasts_openIn hOpen) none)
    have hPreset := hOpened.trans (client.evolves_editOptions _ fun options =>
      options.apply dump.preset)
    have hOutput := hPreset.trans (Client.evolves_dumpTo _ _ output)
    dsimp only
    split
    · exact hOutput.trans (Client.evolves_dumpAsync _ _)
    · exact hOutput

theorem evolves_enter (mode : Config.Mode) :
    Evolves (client, session) (client.enter mode session) := by
  cases mode with
  | normal => exact .refl _
  | debug => exact client.evolves_debugMode session
  | test => exact client.evolves_testMode session

theorem evolves_configure (config : Config) :
    Evolves (client, session) (client.configure config session) := by
  have hHeaders := client.evolves_setHeaders session config.headers
  have hAgent : Evolves (client, session)
      ((config.userAgent.map (client.setHeaders config.headers).setUserAgent).getD
        (client.setHeaders config.headers), session) := by
    cases config.userAgent with
    | none => exact hHeaders
    | some value => exact hHeaders.trans (Client.evolves_setHeader _ session _ value)
  have hTreated := hAgent.trans (Client.evolves_treat _ session (changesOf config.response))
  unfold configure
  dsimp only
  split
  · exact (hTreated.trans (Client.evolves_startDump _ session config.dump)).trans
      (Client.evolves_enter _ _ config.mode)
  · exact hTreated.trans (Client.evolves_enter _ session config.mode)

/-- A client is new in a session: nothing that was there has changed, its cell was not there
before, and it fits. -/
structure Joins (before : Session) (after : Client × Session) : Prop where
  confined : Session.Confined none before after.2
  cell : before.cells.length ≤ after.1.cell
  fits : after.1.Fits after.2

/-- What a new client does to itself changes nothing for those that were there. -/
theorem Joins.evolves {before : Session} {first second : Client × Session}
    (h : Joins before first) (h' : Evolves first second) : Joins before second where
  confined := h.confined.absorb h.cell h'.confined
  cell := h'.cell ▸ h.cell
  fits := h'.fits h.fits

end Client

/-- Where the pool of a transport can be built again, a copy has one of its own. -/
theorem Transport.copy?_of_build {transport : Transport}
    (h : Pool.build? transport.config transport.timeouts transport.jar = .ok transport.pool) :
    transport.copy? = .ok { transport with hook := none } := by
  simp [Transport.copy?, h, bind, Except.bind, pure, Except.pure]

namespace Client

/-- The pool of a client that fits can be built again, so a copy of its transport has one of its
own. -/
theorem Fits.copy?_transport {client : Client} {session : Session} (h : client.Fits session) :
    client.transport.copy? = .ok { client.transport with hook := none } :=
  Transport.copy?_of_build h.pool

/-- A copy of an unarmed client differs from it in its cell alone. -/
theorem Fits.copy_of_not_isArmed {client : Client} {session : Session} (h : client.Fits session)
    (hArmed : client.isArmed = false) :
    client.copy session =
      ({ client with
          transport := { client.transport with hook := none }
          cell := session.cells.length },
        (session.addCell (client.options? session)).1) := by
  simp [copy, Transport.copy, h.copy?_transport, hArmed, Session.addCell]

/-- A copy of an armed client differs from it in its cell and its hook. -/
theorem Fits.copy_of_isArmed {client : Client} {session : Session} (h : client.Fits session)
    (hArmed : client.isArmed = true) :
    client.copy session =
      ({ client with
          transport := { client.transport with hook := some session.hooks.length }
          cell := session.cells.length },
        ((session.addCell (client.options? session)).1.attachHook session.cells.length).1) := by
  simp [copy, Transport.copy, h.copy?_transport, hArmed, h.options hArmed, Session.addCell,
    Transport.attach, Transport.isArmed, Session.attachHook]

/-- A copy takes cookies from the jar of its source. -/
theorem Fits.jar_copy {client : Client} {session : Session} (h : client.Fits session) :
    (client.copy session).1.transport.jar = client.transport.jar := by
  cases hArmed : client.isArmed with
  | false => rw [h.copy_of_not_isArmed hArmed]
  | true => rw [h.copy_of_isArmed hArmed]

theorem joins_copy {client : Client} {session : Session} (h : client.Fits session) :
    Joins session (client.copy session) := by
  have hAdded := session.confined_addCell (client.options? session)
  have hLt : session.cells.length < (session.addCell (client.options? session)).1.cells.length := by
    simp [Session.addCell]
  cases hArmed : client.isArmed with
  | false =>
      rw [h.copy_of_not_isArmed hArmed]
      refine ⟨hAdded, Nat.le_refl _, hLt, ?_, ?_, h.pool, (h.later hAdded).jar⟩
      · rintro hook ⟨⟩
      · rintro ⟨⟩
  | true =>
      rw [h.copy_of_isArmed hArmed]
      have hAttached := hAdded.trans (Session.confined_attachHook _ session.cells.length none)
      refine ⟨hAttached, Nat.le_refl _, hLt, ?_, ?_, h.pool, (h.later hAttached).jar⟩
      · rintro hook ⟨⟩
        exact Session.hookCell?_attachHook_self _ _
      · intro _
        show ((session.addCell _).1.options? session.cells.length).isSome = true
        rw [session.options?_addCell_self (client.options? session)]
        exact h.options hArmed

/-- A new transport carries no hook, and its jar is a new one. -/
theorem ofConfig_transport {config : Config.Transport} {timeouts : Config.Timeouts}
    {session next : Session} {transport : Transport}
    (h : Transport.ofConfig config timeouts session = .ok (transport, next)) :
    Session.Confined none session next ∧ transport.hook = none ∧
      Pool.build? transport.config transport.timeouts transport.jar = .ok transport.pool ∧
        ∀ jar, transport.jar = some jar → session.jars.length ≤ jar ∧ jar < next.jars.length := by
  unfold Transport.ofConfig at h
  cases hCookies : config.cookies with
  | false =>
      cases hPool : Pool.build? config timeouts none with
      | error failure => simp [hCookies, hPool, bind, Except.bind] at h
      | ok pool =>
          simp [hCookies, hPool, bind, Except.bind, pure, Except.pure] at h
          obtain ⟨rfl, rfl⟩ := h
          exact ⟨.refl _ _, rfl, hPool, by rintro jar ⟨⟩⟩
  | true =>
      cases hPool : Pool.build? config timeouts (some session.jars.length) with
      | error failure => simp [hCookies, Session.addJar, hPool, bind, Except.bind] at h
      | ok pool =>
          simp [hCookies, Session.addJar, hPool, bind, Except.bind, pure, Except.pure] at h
          obtain ⟨rfl, rfl⟩ := h
          refine ⟨session.confined_addJar, rfl, hPool, ?_⟩
          rintro jar ⟨⟩
          simp

/-- A client that has been built is new, and so is its jar. -/
theorem joins_ofConfig {config : Config} {session : Session} {state : Client × Session}
    (h : ofConfig config session = .ok state) :
    Joins session state ∧
      ∀ jar, state.1.transport.jar = some jar → session.jars.length ≤ jar := by
  unfold ofConfig at h
  cases hTransport : Transport.ofConfig config.transport config.timeouts session with
  | error failure => rw [hTransport] at h; cases h
  | ok built =>
      obtain ⟨transport, next⟩ := built
      obtain ⟨hConfined, hHook, hPool, hJar⟩ := ofConfig_transport hTransport
      rw [hTransport] at h
      cases h
      have hAdded := hConfined.trans (next.confined_addCell none)
      -- The client as it is before any other section has been looked at.
      have hJoins : Joins session
          ((⟨transport, next.cells.length, [], .silent, config.timeouts.requestBound?⟩ : Client),
            (next.addCell none).1) := by
        refine ⟨hAdded, hConfined.cells, ?_, ?_, ?_, hPool, fun jar h => (hJar jar h).2⟩
        · simp [Session.addCell]
        · intro hook hSome
          rw [show transport.hook = some hook from hSome] at hHook
          cases hHook
        · intro hArmed
          rw [isArmed, Transport.isArmed, hHook] at hArmed
          cases hArmed
      have hEvolves := evolves_configure
        ⟨transport, next.cells.length, [], .silent, config.timeouts.requestBound?⟩
        (next.addCell none).1 config
      refine ⟨hJoins.evolves hEvolves, ?_⟩
      exact fun jar hSome => (hJar jar (hEvolves.jar.symm.trans hSome)).1

end Client
end Wiretap
