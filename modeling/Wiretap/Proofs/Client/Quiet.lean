import Wiretap.Proofs.Client.Commutation
import Wiretap.Proofs.Transport.Pooling

/-!
# Calls that write nothing

A client is built and configured before anything goes through it.  What this adds to a
session are hooks that have nothing to write and files that nothing has been written to; no
hook that was there gets anything to do, no output is given a record, and nothing is sent.

* `Client.Quiet` says that what happened to a client and its session is of this kind, and that
  the hook of the client is still the newest one if it was.
* `Client.quiet_call`, `Client.quiet_callAll` and `Client.quiet_ofConfig` say that calls on a
  client, and the building of one, are.
* `Session.Untouched` says that nothing has been sent or dumped yet; `Client.Quiet.untouched` says
  that this is so where all that happened was quiet.
-/

namespace Wiretap

open Dump

/-- A file that has just been opened. -/
def Dump.Sink.opened (location : Disk.Location) : Sink := ⟨.file location, .takeAll, [], 0⟩

theorem Dump.Outputs.sinks_openFile {outputs next : Outputs} {output : Output} {path : String}
    (h : outputs.openFile path = .ok (next, output)) :
    ∃ location, next.sinks = outputs.sinks ++ [Sink.opened location] := by
  unfold openFile openFileAs at h
  cases hCreate : outputs.disk.create path with
  | error fault =>
      rw [hCreate] at h
      cases h
  | ok created =>
      rw [hCreate] at h
      cases h
      exact ⟨created.2, rfl⟩

namespace Session

/-- Nothing has been sent, no record has been written, and none waits to be.  Every output takes
all that it will be given. -/
structure Untouched (session : Session) : Prop where
  contacts : session.contacts = []
  sinks : ∀ sink ∈ session.outputs.sinks, sink.rule = .takeAll ∧ sink.before = []
  hooks : ∀ hook ∈ session.hooks, ∃ cell, hook = .onCell cell

theorem untouched_onDisk (disk : Disk) : (onDisk disk).Untouched := by
  refine ⟨rfl, fun sink hMem => ?_, fun hook hMem => absurd hMem List.not_mem_nil⟩
  rcases List.mem_cons.mp hMem with rfl | hStderr
  · exact ⟨rfl, rfl⟩
  · rw [List.mem_singleton.mp hStderr]
    exact ⟨rfl, rfl⟩

namespace Untouched

variable {session : Session}

theorem takesAll (h : session.Untouched) :
    ∀ nature ∈ session.outputs.natures, nature.2.TakesAll := by
  intro nature hMem
  obtain ⟨sink, hSink, rfl⟩ := List.mem_map.mp hMem
  have hRule : sink.nature.2 = .takeAll := (h.sinks sink hSink).1
  rw [hRule]
  exact Dump.Rule.takesAll_takeAll

theorem hook_of_policy? (h : session.Untouched) {hook : Option Nat} {number : Nat}
    {options : Options} (hPolicy : session.policy? hook = some (number, options)) :
    hook = some number ∧ ∃ cell, session.hooks[number]? = some (.onCell cell) := by
  unfold policy? at hPolicy
  simp only [Option.bind_eq_bind, Option.bind_eq_some_iff] at hPolicy
  obtain ⟨there, rfl, found, hFound, found', -, hPair⟩ := hPolicy
  cases hPair
  obtain ⟨cell, rfl⟩ := h.hooks found (List.mem_of_getElem? hFound)
  exact ⟨rfl, cell, hFound⟩

end Untouched

/-- Workers that have nothing to write leave the outputs alone. -/
theorem outputs_drain_of_onCell {session : Session}
    (h : ∀ hook ∈ session.hooks, ∃ cell, hook = .onCell cell) (number : Nat) :
    (session.drain number).outputs = session.outputs := by
  unfold drain onHook
  split
  · rfl
  next hook hHook =>
    obtain ⟨cell, rfl⟩ := h hook (List.mem_of_getElem? hHook)
    rfl

end Session

namespace Client

/-- Whether the hook of a client is the one that was attached last. -/
def Newest (state : Client × Session) : Prop :=
  ∀ number, state.1.transport.hook = some number → number + 1 = state.2.hooks.length

/-- Hooks with nothing to write and files without records have been added; what was there of
hooks, outputs and requests is as it was. -/
structure Quiet (before after : Client × Session) : Prop where
  hooks : ∃ cells : List Nat, after.2.hooks = before.2.hooks ++ cells.map Hook.onCell
  sinks : ∃ locations : List Disk.Location,
    after.2.outputs.sinks = before.2.outputs.sinks ++ locations.map Sink.opened
  contacts : after.2.contacts = before.2.contacts
  newest : Newest before → Newest after

namespace Quiet

variable {first second third : Client × Session}

/-- What changes neither hooks nor sinks nor requests is quiet. -/
theorem of_eq (hHook : second.1.transport.hook = first.1.transport.hook)
    (hHooks : second.2.hooks = first.2.hooks)
    (hSinks : second.2.outputs.sinks = first.2.outputs.sinks)
    (hContacts : second.2.contacts = first.2.contacts) : Quiet first second where
  hooks := ⟨[], by simp [hHooks]⟩
  sinks := ⟨[], by simp [hSinks]⟩
  contacts := hContacts
  newest h := by rwa [Newest, hHook, hHooks]

theorem refl (state : Client × Session) : Quiet state state := of_eq rfl rfl rfl rfl

theorem trans (h : Quiet first second) (h' : Quiet second third) : Quiet first third := by
  obtain ⟨cells, hCells⟩ := h.hooks
  obtain ⟨cells', hCells'⟩ := h'.hooks
  obtain ⟨locations, hLocations⟩ := h.sinks
  obtain ⟨locations', hLocations'⟩ := h'.sinks
  refine ⟨⟨cells ++ cells', ?_⟩, ⟨locations ++ locations', ?_⟩, h'.contacts.trans h.contacts,
    fun hNewest => h'.newest (h.newest hNewest)⟩
  · rw [hCells', hCells, List.append_assoc, List.map_append]
  · rw [hLocations', hLocations, List.append_assoc, List.map_append]

/-- Quiet calls leave an untouched session untouched. -/
theorem untouched (h : Quiet first second) (hFirst : first.2.Untouched) : second.2.Untouched := by
  obtain ⟨cells, hCells⟩ := h.hooks
  obtain ⟨locations, hLocations⟩ := h.sinks
  refine ⟨h.contacts.trans hFirst.contacts, fun sink hMem => ?_, fun hook hMem => ?_⟩
  · rw [hLocations] at hMem
    rcases List.mem_append.mp hMem with hOld | hFile
    · exact hFirst.sinks sink hOld
    · obtain ⟨location, -, rfl⟩ := List.mem_map.mp hFile
      exact ⟨rfl, rfl⟩
  · rw [hCells] at hMem
    rcases List.mem_append.mp hMem with hOld | hNew
    · exact hFirst.hooks hook hOld
    · obtain ⟨cell, -, rfl⟩ := List.mem_map.mp hNew
      exact ⟨cell, rfl⟩

end Quiet

variable (client : Client) (session : Session)

theorem quiet_report (warning : Warning) (message : String) :
    Quiet (client, session) (client, client.report message (session.warn warning)) :=
  .of_eq rfl rfl (sinks_log client.logger message _) rfl

/-- A hook is attached behind all others. -/
theorem quiet_arm : Quiet (client, session) (client.arm session) := by
  cases hArmed : client.isArmed with
  | true =>
      rw [client.arm_of_isArmed session hArmed]
      exact .refl _
  | false =>
      rw [client.arm_of_not_isArmed session hArmed]
      refine ⟨⟨[client.cell], rfl⟩, ⟨[], (List.append_nil _).symm⟩, rfl, fun _ number hNumber => ?_⟩
      cases hNumber
      show session.hooks.length + 1 = (session.hooks ++ [Hook.onCell client.cell]).length
      rw [List.length_append, List.length_singleton]

theorem quiet_editOptions (change : Options → Options) :
    Quiet (client, session) (client.editOptions change session) := by
  let edited := client.setOptions (change (client.currentOptions session)) session
  have hEdited : Quiet (client, session) (client, edited) := .of_eq rfl rfl rfl rfl
  exact hEdited.trans (client.quiet_arm edited)

theorem quiet_dumpTo (output : Output) : Quiet (client, session) (client.dumpTo output session) :=
  client.quiet_editOptions session fun options => { options with output := some output }

theorem quiet_dumpAsync : Quiet (client, session) (client.dumpAsync session) :=
  client.quiet_editOptions session fun options => { options with isAsync := true }

theorem quiet_openFile {session : Session} {next : Outputs} {output : Output} {path : String}
    (h : session.outputs.openFile path = .ok (next, output)) :
    Quiet (client, session) (client, { session with outputs := next }) := by
  obtain ⟨location, hSinks⟩ := Outputs.sinks_openFile h
  exact ⟨⟨[], (List.append_nil _).symm⟩, ⟨[location], hSinks⟩, rfl, id⟩

theorem quiet_dumpToFile (path : String) :
    Quiet (client, session) (client.dumpToFile path session) := by
  unfold dumpToFile
  split
  next outputs output hOpen =>
    exact (client.quiet_openFile hOpen).trans (client.quiet_dumpTo _ output)
  next fault _ => exact client.quiet_report session .fileNotCreated (fileReport fault)

theorem quiet_setProxy (proxy : Config.Proxy) :
    Quiet (client, session) (client.setProxy proxy session) := by
  cases hUsable : proxy.isUsable with
  | true =>
      rw [client.setProxy_of_isUsable session hUsable]
      exact .of_eq rfl rfl rfl rfl
  | false =>
      rw [client.setProxy_of_not_isUsable session hUsable]
      exact client.quiet_report session .proxyRejected _

theorem quiet_debugMode : Quiet (client, session) (client.debugMode session) := by
  have hTreated : Quiet (client, session) (client.treat [.decode], session) :=
    .of_eq rfl rfl rfl rfl
  have hArmed := hTreated.trans ((client.treat [.decode]).quiet_arm session)
  exact hArmed.trans (.of_eq rfl rfl rfl rfl)

theorem quiet_call (c : Call) : Quiet (client, session) (client.call session c) := by
  cases c with
  | headers list =>
      rw [call, client.setHeaders_eq list]
      exact .of_eq rfl rfl rfl rfl
  | proxy proxy => exact client.quiet_setProxy session proxy
  | dump enable =>
      cases enable with
      | true => exact client.quiet_arm session
      | false =>
          refine ⟨⟨[], (List.append_nil _).symm⟩, ⟨[], (List.append_nil _).symm⟩, rfl, ?_⟩
          rintro - number ⟨⟩
  | preset preset => exact client.quiet_editOptions session _
  | dumpTo output => exact client.quiet_dumpTo session output
  | dumpToFile path => exact client.quiet_dumpToFile session path
  | dumpAsync => exact client.quiet_dumpAsync session
  | debugMode => exact client.quiet_debugMode session
  | testMode => exact (client.quiet_debugMode session).trans (.of_eq rfl rfl rfl rfl)
  | _ => exact .of_eq rfl rfl rfl rfl

theorem quiet_callAll (calls : List Call) :
    Quiet (client, session) (client.callAll session calls) := by
  induction calls generalizing client session with
  | nil => exact .refl _
  | cons c rest ih => exact (client.quiet_call session c).trans (ih _ _)

theorem quiet_openIn {target : Target} {next : Outputs} {output : Output}
    (h : target.openIn session.outputs = .ok (next, output)) :
    Quiet (client, session) (client, { session with outputs := next }) := by
  cases target with
  | stdout =>
      cases h
      exact .refl _
  | stderr =>
      cases h
      exact .refl _
  | file path => exact client.quiet_openFile h

theorem quiet_startDump (dump : Config.Dump) :
    Quiet (client, session) (client.startDump dump session) := by
  unfold startDump
  split
  next fault _ => exact client.quiet_report session .outputNotOpened (fileReport fault)
  next outputs output hOpen =>
    have hPreset := (client.quiet_openIn session hOpen).trans
      (client.quiet_editOptions _ fun options => options.apply dump.preset)
    have hOutput := hPreset.trans (Client.quiet_dumpTo _ _ output)
    dsimp only
    split
    · exact hOutput.trans (Client.quiet_dumpAsync _ _)
    · exact hOutput

theorem quiet_enter (mode : Config.Mode) :
    Quiet (client, session) (client.enter mode session) := by
  cases mode with
  | normal => exact .refl _
  | debug => exact client.quiet_call session .debugMode
  | test => exact client.quiet_call session .testMode

theorem quiet_configure (config : Config) :
    Quiet (client, session) (client.configure config session) := by
  have hHeaders := client.quiet_call session (.headers config.headers)
  have hAgent : Quiet (client, session)
      ((config.userAgent.map (client.setHeaders config.headers).setUserAgent).getD
        (client.setHeaders config.headers), session) := by
    cases config.userAgent with
    | none => exact hHeaders
    | some value => exact hHeaders.trans (.of_eq rfl rfl rfl rfl)
  have hTreated := hAgent.trans (Client.quiet_call _ session (.treat (changesOf config.response)))
  unfold configure
  dsimp only
  split
  · exact (hTreated.trans (Client.quiet_startDump _ session config.dump)).trans
      (Client.quiet_enter _ _ config.mode)
  · exact hTreated.trans (Client.quiet_enter _ session config.mode)

/-- A client is configured from scratch: without a hook and without a logger, in a session to which
at most a jar and a cell have been added. -/
theorem configure_of_ofConfig {config : Config} {session : Session} {built : Client × Session}
    (h : Client.ofConfig config session = .ok built) :
    ∃ (bare : Client) (start : Session), built = bare.configure config start ∧
      bare.logger = .silent ∧ bare.transport.hook = none ∧ start.hooks = session.hooks ∧
        start.outputs = session.outputs ∧ start.contacts = session.contacts := by
  unfold ofConfig at h
  rw [Transport.ofConfig_eq] at h
  cases hPool : Pool.build? config.transport config.timeouts
      (Transport.firstJar? config.transport session) with
  | error failure =>
      rw [hPool] at h
      cases h
  | ok pool =>
      rw [hPool] at h
      cases h
      refine ⟨_, _, rfl, rfl, rfl, ?_⟩
      cases config.transport.cookies <;> exact ⟨rfl, rfl, rfl⟩

/-- A client that is built leaves hooks and outputs alone, but for the file that it may open and the
hook that it may attach. -/
theorem quiet_ofConfig {config : Config} {session : Session} {built : Client × Session}
    (h : Client.ofConfig config session = .ok built) :
    ∃ bare : Client, bare.transport.hook = none ∧ Quiet (bare, session) built := by
  obtain ⟨bare, start, rfl, -, hNone, hHooks, hOutputs, hContacts⟩ := configure_of_ofConfig h
  have hStart : Quiet (bare, session) (bare, start) :=
    .of_eq rfl hHooks (congrArg Outputs.sinks hOutputs) hContacts
  exact ⟨bare, hNone, hStart.trans (bare.quiet_configure start config)⟩

/-- The hook of a client that has just been built is the newest. -/
theorem newest_ofConfig {config : Config} {session : Session} {built : Client × Session}
    (h : Client.ofConfig config session = .ok built) : Newest built := by
  obtain ⟨bare, hNone, hQuiet⟩ := quiet_ofConfig h
  refine hQuiet.newest fun number hNumber => ?_
  rw [hNone] at hNumber
  cases hNumber

end Client
end Wiretap
