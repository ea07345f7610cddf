import Wiretap.Command.Run
import Wiretap.Proofs.Client.Quiet

/-!
# What a command does before its request

A command loads its configuration, builds a client, makes calls on it and splits the headers
among its arguments.  Whatever of this fails, nothing has been sent and nothing dumped by then;
all that can have been written is a report on the file for dumps.

* `Command.splitHeader?_of_colon` says how a header is split.
* `Arguments.steps` put the request together; `Arguments.draftCalls_eq_ok` says that they do if
  every header has a colon.
* `Arguments.Ready` says with which client and in which session a command is about to send.
* `Arguments.Ready.untouched` and `Arguments.Ready.reported` say what has happened by then.
-/

namespace Wiretap

namespace Client

theorem outputs_callAll (client : Client) (session : Session) {calls : List Call}
    (hProxy : ∀ c ∈ calls, ∀ proxy, c ≠ .proxy proxy)
    (hFile : ∀ c ∈ calls, ∀ path, c ≠ .dumpToFile path) :
    (client.callAll session calls).2.outputs = session.outputs := by
  induction calls generalizing client session with
  | nil => rfl
  | cons c rest ih =>
      obtain ⟨hFirstProxy, hRestProxy⟩ := List.forall_mem_cons.mp hProxy
      obtain ⟨hFirstFile, hRestFile⟩ := List.forall_mem_cons.mp hFile
      have hFirst := client.outputs_call session hFirstProxy hFirstFile
      exact (ih _ _ hRestProxy hRestFile).trans hFirst

/-- The logger is the one that was set last. -/
theorem logger_callAll (client : Client) (session : Session) (calls : List Call) :
    (client.callAll session calls).1.logger =
      (calls.filterMap Call.logger?).getLast?.getD client.logger := by
  induction calls using List.reverseRecOn with
  | nil => rfl
  | append_singleton calls c ih =>
      have hCall := congrArg Client.logger
        ((client.callAll session calls).1.bare_eq_reshape (client.callAll session calls).2 c)
      replace hCall : ((client.callAll session calls).1.call (client.callAll session calls).2
          c).1.logger = c.logger?.getD (client.callAll session calls).1.logger := hCall
      rw [callAll_append, List.filterMap_append]
      show ((client.callAll session calls).1.call (client.callAll session calls).2 c).1.logger = _
      rw [hCall, ih]
      cases hSet : c.logger? <;> simp [hSet]

end Client

theorem Logger.stdout_log (logger : Logger) (message : String) (outputs : Dump.Outputs) :
    (logger.log message outputs).stdout = outputs.stdout ++
      if logger = .writer .stdout then Bytes.ofString (message ++ "\n") else [] := by
  cases logger with
  | silent => simp [log]
  | warnings => simp [log, Dump.Outputs.warn]
  | writer place =>
      by_cases hPlace : place = .stdout
      · subst hPlace
        rfl
      · have hOther := outputs.contents_deposit_of_ne (outputs.contents place).length
          (Bytes.ofString (message ++ "\n")) (Ne.symm hPlace)
        rw [if_neg fun hEq => hPlace (Logger.writer.inj hEq), List.append_nil]
        exact hOther

theorem Dump.Outputs.stdout_openFile {outputs next : Outputs} {output : Output} {path : String}
    (h : outputs.openFile path = .ok (next, output)) : next.stdout = outputs.stdout := by
  unfold openFile openFileAs at h
  cases hCreate : outputs.disk.create path with
  | error fault =>
      rw [hCreate] at h
      cases h
  | ok created =>
      rw [hCreate] at h
      cases h
      rfl

namespace Client

/-- A file that cannot be created may be reported on standard output. -/
theorem stdout_dumpToFile (client : Client) (session : Session) (path : String) :
    (client.dumpToFile path session).2.outputs.stdout = session.outputs.stdout ∨
      client.logger = .writer .stdout ∧ ∃ fault,
        (client.dumpToFile path session).2.outputs.stdout =
          session.outputs.stdout ++ Bytes.ofString (fileReport fault ++ "\n") := by
  unfold dumpToFile
  split
  next outputs output hOpen =>
    refine .inl ?_
    have hEdited := client.outputs_editOptions { session with outputs := outputs } fun options =>
      { options with output := some output }
    exact (congrArg Dump.Outputs.stdout hEdited).trans (Dump.Outputs.stdout_openFile hOpen)
  next fault _ =>
    have hLog := client.logger.stdout_log (fileReport fault)
      (session.warn .fileNotCreated).outputs
    split at hLog
    next hLogger => exact .inr ⟨hLogger, fault, hLog⟩
    next => exact .inl (hLog.trans (List.append_nil _))

theorem stdout_openIn {target : Dump.Target} {outputs next : Dump.Outputs} {output : Dump.Output}
    (h : target.openIn outputs = .ok (next, output)) : next.stdout = outputs.stdout := by
  cases target with
  | file path => exact Dump.Outputs.stdout_openFile h
  | _ =>
      cases h
      rfl

theorem stdout_startDump {client : Client} (hSilent : client.logger = .silent)
    (session : Session) (dump : Config.Dump) :
    (client.startDump dump session).2.outputs.stdout = session.outputs.stdout := by
  unfold startDump
  split
  next fault _ =>
    have hLog := client.logger.stdout_log (fileReport fault) (session.warn .outputNotOpened).outputs
    rw [hSilent, if_neg (by rintro ⟨⟩), List.append_nil, ← hSilent] at hLog
    exact hLog
  next outputs output hOpen =>
    have hOpened := stdout_openIn hOpen
    dsimp only
    split
    · rw [dumpAsync, outputs_editOptions, dumpTo, outputs_editOptions, dumpOnly,
        outputs_editOptions]
      exact hOpened
    · rw [dumpTo, outputs_editOptions, dumpOnly, outputs_editOptions]
      exact hOpened

theorem outputs_enter (client : Client) (session : Session) (mode : Config.Mode) :
    (client.enter mode session).2.outputs = session.outputs := by
  cases mode with
  | normal => rfl
  | debug => exact (client.treat [.decode]).outputs_arm session
  | test => exact (client.treat [.decode]).outputs_arm session

/-- Nobody hears of what goes wrong while a client is built. -/
theorem stdout_configure {client : Client} (hSilent : client.logger = .silent)
    (session : Session) (config : Config) :
    (client.configure config session).2.outputs.stdout = session.outputs.stdout := by
  unfold configure
  rw [client.setHeaders_eq]
  dsimp only
  split
  · rw [outputs_enter]
    refine stdout_startDump ?_ session config.dump
    cases config.userAgent <;> exact hSilent
  · rw [outputs_enter]

theorem stdout_ofConfig {config : Config} {session : Session} {built : Client × Session}
    (h : Client.ofConfig config session = .ok built) :
    built.2.outputs.stdout = session.outputs.stdout := by
  obtain ⟨bare, start, rfl, hSilent, -, -, hOutputs, -⟩ := configure_of_ofConfig h
  rw [stdout_configure hSilent, hOutputs]

end Client

namespace Command

section Splitting

variable {raw : String}

/-- A header is split at its first colon, and the blanks around both parts are dropped. -/
theorem splitHeader?_of_colon {before after : List Char}
    (hRaw : raw.toList = before ++ ':' :: after) (hFirst : ':' ∉ before) :
    splitHeader? raw =
      some (Blank.trim (String.ofList before), Blank.trim (String.ofList after)) := by
  have hPasses : ∀ c ∈ before, (c != ':') = true := by
    intro c hMem
    rw [bne_iff_ne]
    rintro rfl
    exact hFirst hMem
  have hName : raw.toList.takeWhile (· != ':') = before := by
    rw [hRaw, List.takeWhile_append_of_pos hPasses]
    simp
  have hValue : raw.toList.dropWhile (· != ':') = ':' :: after := by
    rw [hRaw, List.dropWhile_append_of_pos hPasses]
    simp
  unfold splitHeader?
  rw [hName, hValue]

theorem splitHeader?_eq_none_iff : splitHeader? raw = none ↔ ':' ∉ raw.toList := by
  constructor
  · intro hNone hMem
    obtain ⟨before, after, hRaw, hFirst⟩ := List.eq_append_cons_of_mem hMem
    rw [splitHeader?_of_colon hRaw hFirst] at hNone
    cases hNone
  · intro hMem
    have hAll : raw.toList.dropWhile (· != ':') = [] := by
      rw [List.dropWhile_eq_nil_iff]
      intro c hChar
      rw [bne_iff_ne]
      rintro rfl
      exact hMem hChar
    rw [splitHeader?, hAll]

end Splitting

namespace Arguments

variable (arguments : Arguments)

/-- The headers that are given to the request. -/
def given : List (String × String) := arguments.headers.filterMap splitHeader?

/-- Whether every header can be split. -/
def HasColons : Prop := ∀ raw ∈ arguments.headers, ':' ∈ raw.toList

/-- The steps that put the request together, if every header can be split. -/
def steps : List Draft.Call :=
  [.methodName arguments.method, .url arguments.url]
    ++ arguments.given.map (fun header => .header header.1 header.2)
    ++ arguments.data.toList.map fun data => .body (Bytes.ofString data)

theorem mapM_headerCall {headers : List String} (h : ∀ raw ∈ headers, ':' ∈ raw.toList) :
    headers.mapM headerCall =
      .ok ((headers.filterMap splitHeader?).map fun header => .header header.1 header.2) := by
  induction headers with
  | nil => rfl
  | cons raw rest ih =>
      obtain ⟨hFirst, hRest⟩ := List.forall_mem_cons.mp h
      cases hSplit : splitHeader? raw with
      | none => exact absurd hFirst (splitHeader?_eq_none_iff.mp hSplit)
      | some header =>
          rw [List.mapM_cons, headerCall, hSplit, ih hRest, List.filterMap_cons_some hSplit]
          rfl

theorem mapM_headerCall_of_not {headers : List String} (h : ¬ ∀ raw ∈ headers, ':' ∈ raw.toList) :
    ∃ raw, headers.mapM headerCall = .error (.header raw) := by
  induction headers with
  | nil => exact absurd (by simp) h
  | cons raw rest ih =>
      cases hSplit : splitHeader? raw with
      | none =>
          refine ⟨raw, ?_⟩
          rw [List.mapM_cons, headerCall, hSplit]
          rfl
      | some header =>
          have hFirst : ':' ∈ raw.toList := by
            by_contra hNone
            rw [splitHeader?_eq_none_iff.mpr hNone] at hSplit
            cases hSplit
          obtain ⟨other, hFault⟩ := ih fun hRest => h (List.forall_mem_cons.mpr ⟨hFirst, hRest⟩)
          refine ⟨other, ?_⟩
          rw [List.mapM_cons, headerCall, hSplit, hFault]
          rfl

variable {arguments}

theorem draftCalls_eq_ok (h : arguments.HasColons) :
    arguments.draftCalls = .ok arguments.steps := by
  rw [draftCalls, mapM_headerCall h]
  rfl

theorem draftCalls_eq_error (h : ¬ arguments.HasColons) :
    ∃ raw, arguments.draftCalls = .error (.header raw) := by
  obtain ⟨raw, hFault⟩ := mapM_headerCall_of_not h
  refine ⟨raw, ?_⟩
  rw [draftCalls, hFault]
  rfl

theorem config?_eq_error {disk : Disk} {fault : Fault} (h : arguments.config? disk = .error fault) :
    ∃ error, fault = .config error := by
  unfold config? at h
  split at h
  · cases h
  · split at h
    · cases h
    · cases h
      exact ⟨_, rfl⟩

/-- The calls before the one on the file. -/
def earlierCalls (arguments : Arguments) : List Client.Call :=
  .logger (some .warnings)
    :: (if arguments.test then [.testMode] else if arguments.debug then [.debugMode] else [])
    ++ arguments.dump.toList.map .preset

/-- Whether a command comes to the point where its request is about to be sent: the configuration
has been loaded, and the client built and called. -/
def Ready (arguments : Arguments) (disk : Disk) (client : Client) (session : Session) : Prop :=
  ∃ config built, arguments.config? disk = .ok config ∧
    Client.ofConfig config (.onDisk disk) = .ok built ∧
    built.1.callAll built.2 arguments.clientCalls = (client, session)

/-- What may have been written on standard output by then: nothing, or what a logger that writes
there has been told of a file that cannot be created. -/
def Reported (arguments : Arguments) (client : Client) (logs : Bytes) : Prop :=
  logs = [] ∨ client.logger = .writer .stdout ∧ ∃ path fault, arguments.dumpFile = some path ∧
    logs = Bytes.ofString (Client.fileReport fault ++ "\n")

namespace Ready

variable {disk : Disk} {client : Client} {session : Session}

/-- Nothing has been sent by then, and no record written. -/
theorem untouched (h : arguments.Ready disk client session) : session.Untouched := by
  obtain ⟨config, built, -, hBuilt, hCalled⟩ := h
  obtain ⟨bare, -, hBuilding⟩ := Client.quiet_ofConfig hBuilt
  have hCalls := built.1.quiet_callAll built.2 arguments.clientCalls
  rw [hCalled] at hCalls
  exact (hBuilding.trans hCalls).untouched (Session.untouched_onDisk disk)

/-- Only the two modes that help to find faults make a command write its log on standard output. -/
theorem logger (h : arguments.Ready disk client session) :
    client.logger = if arguments.test || arguments.debug then .writer .stdout else .warnings := by
  obtain ⟨config, built, -, -, hCalled⟩ := h
  have hLogger := built.1.logger_callAll built.2 arguments.clientCalls
  rw [hCalled] at hLogger
  rw [hLogger, clientCalls]
  cases arguments.test <;> cases arguments.debug <;> cases arguments.dump <;>
    cases arguments.dumpFile <;> cases arguments.dumpAsync <;> rfl

theorem reported (h : arguments.Ready disk client session) :
    arguments.Reported client session.outputs.stdout := by
  obtain ⟨config, built, -, hBuilt, hCalled⟩ := h
  have hBare : built.2.outputs.stdout = [] := Client.stdout_ofConfig hBuilt
  let last : List Client.Call := if arguments.dumpAsync then [.dumpAsync] else []
  have hCalls : arguments.clientCalls =
      arguments.earlierCalls ++ arguments.dumpFile.toList.map .dumpToFile ++ last := rfl
  let begun := built.1.callAll built.2 arguments.earlierCalls
  have hBegun : begun.2.outputs = built.2.outputs := by
    apply Client.outputs_callAll
    all_goals
      simp only [earlierCalls, List.mem_append, List.mem_cons, List.mem_map]
      rintro c ((rfl | hMode) | ⟨preset, -, rfl⟩) _ ⟨⟩
      split at hMode
      · cases List.mem_singleton.mp hMode
      · split at hMode <;> simp at hMode
  have hLast (client : Client) (session : Session) :
      (client.callAll session last).2.outputs = session.outputs := by
    apply Client.outputs_callAll
    all_goals
      rintro c hMem _ rfl
      simp only [last] at hMem
      split at hMem <;> simp at hMem
  rw [hCalls, Client.callAll_append, Client.callAll_append] at hCalled
  cases hFile : arguments.dumpFile with
  | none =>
      rw [hFile] at hCalled
      have hSession : session.outputs = begun.2.outputs := by
        rw [← hLast begun.1 begun.2]
        exact congrArg (fun called => called.2.outputs) hCalled.symm
      exact .inl (by rw [hSession, hBegun, hBare])
  | some path =>
      let opened := begun.1.dumpToFile path begun.2
      have hOpened : opened.1.callAll opened.2 last = (client, session) := by
        rw [hFile] at hCalled
        exact hCalled
      have hSession : session.outputs = opened.2.outputs := by
        rw [← hLast opened.1 opened.2, hOpened]
      rcases begun.1.stdout_dumpToFile begun.2 path with hSame | ⟨hWriter, fault, hLog⟩
      · exact .inl (by rw [hSession, hSame, hBegun, hBare])
      · -- Neither the file nor the worker has another logger set.
        have hLogger := opened.1.logger_callAll opened.2 last
        have hNone : last.filterMap Client.Call.logger? = [] := by
          simp only [last]
          split <;> rfl
        rw [hOpened, hNone] at hLogger
        have hKept : opened.1.bare.logger = begun.1.bare.logger :=
          congrArg Client.logger (begun.1.bare_dumpToFile begun.2 path)
        refine .inr ⟨hLogger.trans (hKept.trans hWriter), path, fault, hFile, ?_⟩
        rw [hSession, hLog, hBegun, hBare, List.nil_append]

end Ready

end Arguments

variable {arguments : Arguments} {disk : Disk}

/-- What a setback is to a command. -/
def Fault.ofSetback : Setback → Fault
  | .failure failure => .client failure
  | .panic => .panic

theorem Fault.ofSetback_injective : Function.Injective Fault.ofSetback := by
  rintro (_ | _) (_ | _) h <;> simp_all [Fault.ofSetback]

/-- A command that comes to its request sends it.  It lets the worker finish unless it breaks
down. -/
theorem exchange_of_ready {client : Client} {session : Session}
    (hReady : arguments.Ready disk client session) (hColons : arguments.HasColons)
    (around : Surroundings) :
    let sent := (client.draft.applyAll arguments.steps).send around session
    exchange around arguments (.onDisk disk) =
      (sent.1.mapError .ofSetback,
        if sent.1 = .error .panic then sent.2 else client.flush sent.2) := by
  obtain ⟨config, ⟨bare, start⟩, hConfig, hBuilt, hCalled⟩ := hReady
  have hDisk : arguments.config? (Session.onDisk disk).outputs.disk = .ok config := hConfig
  have hSteps := Arguments.draftCalls_eq_ok hColons
  simp only [exchange, hDisk, hBuilt, hCalled, hSteps]
  rcases (client.draft.applyAll arguments.steps).send around session with ⟨(_ | _) | _, _⟩ <;> rfl

/-- A command that does not come to its request has something to say of it.  It has sent and dumped
nothing; all that it can have written is a report. -/
theorem exchange_of_not_ready
    (h : ∀ client session, arguments.Ready disk client session → ¬ arguments.HasColons)
    (around : Surroundings) :
    ∃ fault session, exchange around arguments (.onDisk disk) = (.error fault, session) ∧
      fault ≠ .panic ∧ session.Untouched ∧
      (session.outputs.stdout = [] ∨
        ∃ client, arguments.Ready disk client session ∧
          arguments.Reported client session.outputs.stdout) := by
  have hStart := Session.untouched_onDisk disk
  have hDisk : (Session.onDisk disk).outputs.disk = disk := rfl
  unfold exchange
  rw [hDisk]
  cases hConfig : arguments.config? disk with
  | error fault =>
      obtain ⟨error, rfl⟩ := Arguments.config?_eq_error hConfig
      exact ⟨.config error, _, rfl, nofun, hStart, .inl rfl⟩
  | ok config =>
      dsimp only
      cases hBuilt : Client.ofConfig config (.onDisk disk) with
      | error failure => exact ⟨.client failure, _, rfl, nofun, hStart, .inl rfl⟩
      | ok built =>
          dsimp only
          let called := built.1.callAll built.2 arguments.clientCalls
          have hReady : arguments.Ready disk called.1 called.2 :=
            ⟨config, built, hConfig, hBuilt, rfl⟩
          obtain ⟨raw, hFault⟩ := Arguments.draftCalls_eq_error (h _ _ hReady)
          rw [hFault]
          exact ⟨.header raw, called.2, rfl, nofun, hReady.untouched,
            .inr ⟨called.1, hReady, hReady.reported⟩⟩

end Command
end Wiretap
