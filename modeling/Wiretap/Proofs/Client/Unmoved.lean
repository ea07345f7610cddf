import Wiretap.Proofs.Exchange.Transparency
import Wiretap.Proofs.Client.Fitting
import Wiretap.Proofs.Session.Reported
import Wiretap.Proofs.Transport.Pooling

/-!
# Clients do not look back

Nothing that a client does depends on what has been reported before: not what its calls
make of it, not what a copy of it is, and not what comes of its requests.

* `Report.Same` says that something comes to the same with and without a report.
* `Exchange.same_run` says so of an exchange, and `Draft.same_send` of sending a request.
* `Client.same_call`, `Client.same_copy` and `Client.same_ofConfig` say so of calls, copies
  and new clients.
-/

namespace Wiretap

/-- With and without a report something gives the same, and leaves sessions that differ by the
report at most. -/
structure Report.Same {α : Type} (report : Report) (left right : α × Session) : Prop where
  result : right.1 = left.1
  session : Session.Beside report left.2 right.2

/-- What follows on the same result goes on in the same way. -/
theorem Report.Same.andThen {α β : Type} {report : Report} {left right : α × Session}
    {act : α → Session → β × Session} (h : report.Same left right)
    (hAct : ∀ {left right : Session}, Session.Beside report left right →
      ∀ input, report.Same (act input left) (act input right)) :
    report.Same (act left.1 left.2) (act right.1 right.2) := by
  rw [h.result]
  exact hAct h.session left.1

namespace Exchange

variable {report : Report} {left right : Session}

theorem beside_dumpAll (h : Session.Beside report left right) (policy : Option Session.Policy)
    (records : Dump.Flags → List Bytes) :
    Session.Beside report (dumpAll policy records left) (dumpAll policy records right) := by
  cases policy with
  | none => exact h
  | some policy =>
      obtain ⟨hook, options⟩ := policy
      simp only [dumpAll]
      generalize records options.flags = list
      induction list generalizing left right with
      | nil => exact h
      | cons record rest ih =>
          have hRecord := Dump.Hook.overlooks_write options record
          exact ih (Session.beside_onHook h hook hRecord)

theorem beside_afterFetch (h : Session.Beside report left right) (policy : Option Session.Policy)
    (pool : Pool) (request : Request) (fetched : Fetched) :
    Session.Beside report (afterFetch policy left pool request fetched)
      (afterFetch policy right pool request fetched) := by
  have hWritten := beside_dumpAll h policy fun flags => requestRecords flags request
  have hJar := Session.beside_setJar hWritten pool.jar fetched.jar
  unfold afterFetch
  -- The rest of what a fetch leaves behind comes from `fetched`, which is one for both sides.
  revert hJar
  generalize (dumpAll policy _ left).setJar pool.jar fetched.jar = before
  generalize (dumpAll policy _ right).setJar pool.jar fetched.jar = after
  rintro ⟨outputs, hOutputs⟩
  exact .intro outputs hOutputs

theorem same_perform (h : Session.Beside report left right) (around : Surroundings) (pool : Pool)
    (treatment : Treatment) (policy : Option Session.Policy) (request : Request) :
    report.Same (perform around pool treatment policy request left)
      (perform around pool treatment policy request right) := by
  -- What the network answers depends on the jar and the contacts, and on no output.
  have hFetched :
      fetch around pool.config.proxy request (right.jar? pool.jar) right.contacts =
        fetch around pool.config.proxy request (left.jar? pool.jar) left.contacts := by
    obtain ⟨outputs, -⟩ := h
    rfl
  rw [perform_eq, perform_eq]
  simp only [jar?_dumpAll, contacts_dumpAll, hFetched]
  refine ⟨rfl, ?_⟩
  dsimp only
  exact beside_dumpAll (beside_afterFetch h policy pool request _) policy _

theorem same_run (h : Session.Beside report left right) (around : Surroundings)
    (handle : Transport.Handle) (request : Request) :
    report.Same (run around handle request left) (run around handle request right) := by
  have hPolicy : right.policy? handle.hook = left.policy? handle.hook := by
    obtain ⟨outputs, -⟩ := h
    rfl
  rw [run, run, hPolicy]
  exact same_perform h around handle.pool handle.treatment _ request

end Exchange

theorem Draft.same_told {report : Report} {left right : Except Failure Response × Session}
    (h : report.Same left right) : report.Same (told left) (told right) :=
  ⟨congrArg (Except.mapError Setback.failure) h.1, h.2⟩

theorem Draft.same_send {report : Report} {left right : Session}
    (h : Session.Beside report left right) (around : Surroundings) (draft : Draft) :
    report.Same (draft.send around left) (draft.send around right) := by
  unfold send
  cases draft.build with
  | error setback => exact ⟨rfl, h⟩
  | ok request => exact same_told (Exchange.same_run h around draft.handle request)

/-- A target is opened on both sides or on neither. -/
theorem Dump.Target.beside_openIn {report : Report} {left right : Outputs}
    (h : Outputs.Beside report left right) (target : Target) :
    (∃ fault fault', target.openIn left = .error fault ∧ target.openIn right = .error fault' ∧
        (report.Lands → fault' = fault)) ∨
      ∃ next next' output, target.openIn left = .ok (next, output) ∧
        target.openIn right = .ok (next', output) ∧ Outputs.Beside report next next' := by
  cases target with
  | stdout => exact Or.inr ⟨left, right, .stdout, rfl, rfl, h⟩
  | stderr => exact Or.inr ⟨left, right, .stderr, rfl, rfl, h⟩
  | file path => exact Outputs.beside_openFile h path

namespace Client

variable {report : Report} {left right : Session}

theorem beside_report (h : Session.Beside report left right) (client : Client)
    (warning : Dump.Warning) {message message' : String}
    (hMessage : report.Lands → message' = message) :
    Session.Beside report (client.report message (left.warn warning))
      (client.report message' (right.warn warning)) := by
  obtain ⟨outputs, hOutputs⟩ := h
  have hWarned := Dump.Outputs.beside_warn hOutputs warning
  exact .intro _ (Dump.Outputs.beside_log hWarned client.logger hMessage)

theorem same_arm (h : Session.Beside report left right) (client : Client) :
    report.Same (client.arm left) (client.arm right) := by
  cases hArmed : client.isArmed with
  | true =>
      rw [client.arm_of_isArmed left hArmed, client.arm_of_isArmed right hArmed]
      exact ⟨rfl, h⟩
  | false =>
      rw [client.arm_of_not_isArmed left hArmed, client.arm_of_not_isArmed right hArmed]
      obtain ⟨outputs, hOutputs⟩ := h
      exact ⟨rfl, .intro outputs hOutputs⟩

theorem same_editOptions (h : Session.Beside report left right) (client : Client)
    (change : Dump.Options → Dump.Options) :
    report.Same (client.editOptions change left) (client.editOptions change right) := by
  have hCurrent : client.currentOptions right = client.currentOptions left := by
    obtain ⟨outputs, -⟩ := h
    rfl
  unfold editOptions
  rw [hCurrent]
  exact same_arm (Session.beside_setOptions h client.cell _) client

theorem same_setProxy (h : Session.Beside report left right) (client : Client)
    (proxy : Config.Proxy) :
    report.Same (client.setProxy proxy left) (client.setProxy proxy right) := by
  unfold setProxy
  cases client.transport.setProxy proxy with
  | ok transport => exact ⟨rfl, h⟩
  | error failure => exact ⟨rfl, beside_report h client .proxyRejected fun _ => rfl⟩

theorem beside_opened (h : Session.Beside report left right) {next next' : Dump.Outputs}
    (hNext : Dump.Outputs.Beside report next next') :
    Session.Beside report { left with outputs := next } { right with outputs := next' } := by
  obtain ⟨-, -⟩ := h
  exact .intro next' hNext

theorem same_dumpToFile (h : Session.Beside report left right) (client : Client) (path : String) :
    report.Same (client.dumpToFile path left) (client.dumpToFile path right) := by
  unfold dumpToFile
  rcases Dump.Outputs.beside_openFile h.outputs path with
    ⟨fault, fault', hFault, hFault', hSame⟩ | ⟨next, next', output, hOpen, hOpen', hNext⟩
  · -- This call is refused in turn, and what it reports comes on top on both sides.
    rw [hFault, hFault']
    refine ⟨rfl, beside_report h client .fileNotCreated fun hLands => ?_⟩
    rw [hSame hLands]
  · rw [hOpen, hOpen']
    exact same_editOptions (beside_opened h hNext) client _

theorem same_debugMode (h : Session.Beside report left right) (client : Client) :
    report.Same (client.debugMode left) (client.debugMode right) := by
  obtain ⟨hClient, hSession⟩ := same_arm h (client.treat [.decode])
  have hPosed := congrArg (fun armed : Client =>
    (armed.setLogger (some (.writer .stdout))).setUserAgent chromeAgent) hClient
  exact ⟨hPosed, hSession⟩

theorem same_testMode (h : Session.Beside report left right) (client : Client) :
    report.Same (client.testMode left) (client.testMode right) := by
  obtain ⟨hClient, hSession⟩ := same_debugMode h client
  exact ⟨congrArg (fun client => client.treat [.discard]) hClient, hSession⟩

/-- A call comes to the same, whatever has been reported. -/
theorem same_call (h : Session.Beside report left right) (client : Client) (c : Call) :
    report.Same (client.call left c) (client.call right c) := by
  cases c with
  | proxy proxy => exact same_setProxy h client proxy
  | dump enable =>
      cases enable with
      | true => exact same_arm h client
      | false => exact ⟨rfl, h⟩
  | options options => exact ⟨rfl, Session.beside_setOptions h client.cell options⟩
  | preset preset => exact same_editOptions h client _
  | dumpTo output =>
      exact same_editOptions h client fun options => { options with output := some output }
  | dumpToFile path => exact same_dumpToFile h client path
  | dumpAsync => exact same_editOptions h client fun options => { options with isAsync := true }
  | debugMode => exact same_debugMode h client
  | testMode => exact same_testMode h client
  | _ => exact ⟨rfl, h⟩

theorem same_startDump (h : Session.Beside report left right) (client : Client)
    (dump : Config.Dump) :
    report.Same (client.startDump dump left) (client.startDump dump right) := by
  unfold startDump
  rcases Dump.Target.beside_openIn h.outputs (.ofText dump.output) with
    ⟨fault, fault', hFault, hFault', hSame⟩ | ⟨next, next', output, hOpen, hOpen', hNext⟩
  · rw [hFault, hFault']
    refine ⟨rfl, beside_report h client .outputNotOpened fun hLands => ?_⟩
    rw [hSame hLands]
  · rw [hOpen, hOpen']
    have hOpened := beside_opened h hNext
    have hPreset := same_editOptions hOpened client fun options => options.apply dump.preset
    have hOutput := hPreset.andThen fun h client => same_editOptions h client fun options =>
      { options with output := some output }
    dsimp only
    split
    · exact hOutput.andThen fun h client => same_editOptions h client fun options =>
        { options with isAsync := true }
    · exact hOutput

theorem same_enter (h : Session.Beside report left right) (client : Client) (mode : Config.Mode) :
    report.Same (client.enter mode left) (client.enter mode right) := by
  cases mode with
  | normal => exact ⟨rfl, h⟩
  | debug => exact same_debugMode h client
  | test => exact same_testMode h client

theorem same_configure (h : Session.Beside report left right) (client : Client)
    (config : Config) :
    report.Same (client.configure config left) (client.configure config right) := by
  unfold configure
  dsimp only
  split
  · exact (same_startDump h _ config.dump).andThen fun h client => same_enter h client config.mode
  · exact same_enter h _ config.mode

/-- A new client has a cell of the same number on both sides. -/
theorem same_started (h : Session.Beside report left right) (transport : Transport)
    (config : Config) :
    report.Same
      ((⟨transport, (left.addCell none).2, [], .silent, config.timeouts.requestBound?⟩ :
        Client).configure config (left.addCell none).1)
      ((⟨transport, (right.addCell none).2, [], .silent, config.timeouts.requestBound?⟩ :
        Client).configure config (right.addCell none).1) := by
  obtain ⟨hCell, hAdded⟩ := Session.beside_addCell h none
  rw [hCell]
  exact same_configure hAdded _ config

/-- From a configuration a client is built on both sides or on neither. -/
theorem same_ofConfig (h : Session.Beside report left right) (config : Config) :
    (∃ failure, ofConfig config left = .error failure ∧ ofConfig config right = .error failure) ∨
      ∃ built built', ofConfig config left = .ok built ∧ ofConfig config right = .ok built' ∧
        report.Same built built' := by
  obtain ⟨outputs, hOutputs⟩ := h
  have hJar : Transport.firstJar? config.transport { left with outputs := outputs } =
      Transport.firstJar? config.transport left := rfl
  unfold ofConfig
  rw [Transport.ofConfig_eq, Transport.ofConfig_eq, hJar]
  cases Pool.build? config.transport config.timeouts
      (Transport.firstJar? config.transport left) with
  | error failure => exact Or.inl ⟨failure, rfl, rfl⟩
  | ok pool =>
      have hStart : Session.Beside report
          (if config.transport.cookies then left.addJar.1 else left)
          (if config.transport.cookies then ({ left with outputs := outputs } : Session).addJar.1
            else { left with outputs := outputs }) := by
        split <;> exact .intro outputs hOutputs
      refine Or.inr ⟨_, _, rfl, rfl, ?_⟩
      exact same_started hStart _ config

theorem same_copy (h : Session.Beside report left right) {client : Client}
    (hFits : client.Fits left) (hFits' : client.Fits right) :
    report.Same (client.copy left) (client.copy right) := by
  cases hArmed : client.isArmed with
  | false =>
      rw [hFits.copy_of_not_isArmed hArmed, hFits'.copy_of_not_isArmed hArmed]
      obtain ⟨outputs, hOutputs⟩ := h
      exact ⟨rfl, .intro outputs hOutputs⟩
  | true =>
      rw [hFits.copy_of_isArmed hArmed, hFits'.copy_of_isArmed hArmed]
      obtain ⟨outputs, hOutputs⟩ := h
      exact ⟨rfl, .intro outputs hOutputs⟩

theorem beside_flush (h : Session.Beside report left right) (client : Client) :
    Session.Beside report (client.flush left) (client.flush right) := by
  unfold flush
  cases client.transport.hook with
  | none => exact h
  | some hook => exact Session.beside_onHook h hook Dump.Hook.overlooks_drain

end Client
end Wiretap
