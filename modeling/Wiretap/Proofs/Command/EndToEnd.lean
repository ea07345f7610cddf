import Wiretap.Proofs.Command.Printed
import Wiretap.Proofs.Command.Setup
import Wiretap.Proofs.Draft.Resolution
import Wiretap.Proofs.World.Snapshot

/-!
# A command from its arguments to its exit code

A command that has come so far sends its request, lets the worker finish and prints the body of
the response.  What is on standard output then has three parts: what has been reported, what has
been dumped, and the body.

* `Command.Shows` says what is on standard output if the worker does nothing until the exchange is
  over.
* `Command.Account` says how a command goes, and `Command.run_keeps_account` that every command
  goes so.
* `Command.run_loses_records` is a command that ends well and has lost records.
-/

namespace Wiretap

open Dump

/-- The last header of a name among those that are given to a draft is the only one of that name
in the request, whatever the client has of it. -/
theorem Draft.getAll_of_last {draft : Draft} {steps : List Draft.Call} {request : Request}
    (hBuild : (draft.applyAll steps).build = .ok request)
    {earlier later : List (String × String)} {raw value : String}
    (hWrites : steps.flatMap Draft.Call.writes = earlier ++ (raw, value) :: later)
    (hLast : ∀ header ∈ later, Ascii.sameIgnoringCase header.1 raw = false) :
    ∃ name only, Header.Name.ofString? raw = some name ∧ request.headers.getAll name = [only] ∧
      only.bytes = Bytes.ofString value := by
  refine getAll_of_build hBuild ?_
  have hNone : lastWritten later raw = none := by
    rw [lastWritten, List.find?_eq_none]
    intro header hMem
    simp [hLast header (List.mem_reverse.mp hMem)]
  have hSelf : lastWritten [(raw, value)] raw = some (raw, value) := by
    rw [lastWritten_singleton, if_pos (Ascii.sameIgnoringCase_iff.mpr rfl)]
  rw [headerValue?_applyAll, hWrites, ← List.append_assoc, List.append_cons, lastWritten_append,
    hNone, Option.none_or, lastWritten_append, hSelf]
  rfl

theorem Draft.body_of_isDiscarded {draft : Draft} {session : Session} {around : Surroundings}
    {response : Response} (h : (draft.send around session).1 = .ok response)
    (hDiscarded : response.isDiscarded = true) : response.body = [] := by
  cases hBuild : draft.build with
  | error setback =>
      rw [send_of_build_error hBuild] at h
      cases h
  | ok request =>
      rw [send_of_build_ok hBuild, told_eq_ok_iff, Exchange.run_fst] at h
      obtain ⟨url, arrival, -, -, rfl⟩ := Exchange.result_eq_ok h
      have hDrops : draft.handle.treatment.discardBody = true := hDiscarded
      show (if draft.handle.treatment.discardBody then [] else _) = _
      rw [hDrops]
      rfl

namespace Command

/-- Standard output holds what has been reported, then the records that are shown, and then what the
command prints itself. -/
def Shows (around : Surroundings) (arguments : Arguments) (client : Client) (session : Session)
    (stdout body : Bytes) : Prop :=
  ∃ logs, arguments.Reported client logs ∧
    stdout = logs ++ ((client.draft.applyAll arguments.steps).shown around session).flatten ++ body

/-- How a command goes. -/
structure Account (around : Surroundings) (arguments : Arguments) (disk : Disk)
    (outcome : Outcome) : Prop where
  /-- It ends well or badly, or breaks down. -/
  exit : outcome.exit = 0 ∨ outcome.exit = 1 ∨ outcome.exit = 101
  /-- It ends well if it comes to its request and gets a response, and only then. -/
  succeeds : outcome.exit = 0 ↔ ∃ client session response,
    arguments.Ready disk client session ∧ arguments.HasColons ∧
      ((client.draft.applyAll arguments.steps).send around session).1 = .ok response
  /-- It breaks down if it comes to its request and that has too many headers, and only then. -/
  breaks : outcome.exit = 101 ↔ ∃ client session,
    arguments.Ready disk client session ∧ arguments.HasColons ∧
      ((client.draft.applyAll arguments.steps).send around session).1 = .error .panic
  /-- The body of the response comes last on standard output; a body that is dropped is empty. -/
  answered : ∀ client session response, arguments.Ready disk client session →
    arguments.HasColons →
    ((client.draft.applyAll arguments.steps).send around session).1 = .ok response →
      Shows around arguments client session outcome.session.outputs.stdout response.body ∧
        (response.isDiscarded = true → response.body = [])
  /-- Without a response, nothing comes behind the records. -/
  failed : ∀ client session setback, arguments.Ready disk client session →
    arguments.HasColons →
    ((client.draft.applyAll arguments.steps).send around session).1 = .error setback →
      Shows around arguments client session outcome.session.outputs.stdout []
  /-- A command that does not come to its request has sent and dumped nothing. -/
  early : (∀ client session, arguments.Ready disk client session → ¬ arguments.HasColons) →
    outcome.exit = 1 ∧ outcome.session.Untouched ∧
      (outcome.session.outputs.stdout = [] ∨
        ∃ client session, arguments.Ready disk client session ∧
          arguments.Reported client outcome.session.outputs.stdout)
  /-- Nothing is reported on standard output but in the two modes that help to find faults. -/
  logger : ∀ client session, arguments.Ready disk client session →
    client.logger = if arguments.test || arguments.debug then .writer .stdout else .warnings
  /-- In whatever order the exchange and a worker beside it move, the records are there once both
  are done, and what the command prints comes behind them.  None is missing if they are written at
  once, and otherwise only those that were refused, which happens only when the queue is full. -/
  relayed : ∀ client session, arguments.Ready disk client session →
    let draft := client.draft.applyAll arguments.steps
    ∀ number options request, session.policy? draft.handle.hook = some (number, options) →
      draft.build = .ok request →
      ∀ cell stored moves,
        let traffic := (Traffic.start cell 1 stored session.outputs).run moves
        let printed := draft.printed around session
        (∀ move, (traffic.step move).relay.refused ≠ traffic.relay.refused →
          traffic.relay.hook.queue.length = queueLimit) ∧
        (traffic.lane? 0 = some ⟨request, draft.handle.treatment, options,
            some (Exchange.fetched around draft.handle request session).outcome, []⟩ →
          traffic.relay.hook.isFlushed = true →
            ∃ logs written, arguments.Reported client logs ∧ List.Sublist written printed ∧
              (printed ≠ [] →
                printed.length = written.length + (traffic.relay.refusedOf 0).length) ∧
              (options.isAsync = false → written = printed) ∧
              ∀ body, (traffic.relay.outputs.deposit .stdout 0 body).stdout =
                logs ++ written.flatten ++ body)
  /-- The last header of a name among the arguments is the only one of that name in the request,
  whatever the configuration says; the rest of its text is the value. -/
  headers : ∀ client session request, arguments.Ready disk client session →
    (client.draft.applyAll arguments.steps).build = .ok request →
    ∀ earlier raw later before after, arguments.headers = earlier ++ raw :: later →
      raw.toList = before ++ ':' :: after → ':' ∉ before →
      (∀ header ∈ later.filterMap splitHeader?,
        Ascii.sameIgnoringCase header.1 (Blank.trim (String.ofList before)) = false) →
      ∃ name only, Header.Name.ofString? (Blank.trim (String.ofList before)) = some name ∧
        request.headers.getAll name = [only] ∧
        only.bytes = Bytes.ofString (Blank.trim (String.ofList after))

section Run

variable {arguments : Arguments} {disk : Disk} {client : Client} {session : Session}

/-- What a command that comes to its request has on standard output, before it prints anything
itself. -/
theorem stdout_exchange (hReady : arguments.Ready disk client session)
    (hColons : arguments.HasColons) (around : Surroundings) (body : Bytes) :
    Shows around arguments client session
      ((exchange around arguments (.onDisk disk)).2.outputs.stdout ++ body) body := by
  let sent := (client.draft.applyAll arguments.steps).send around session
  have hHandle : (client.draft.applyAll arguments.steps).handle = client.transport.handle :=
    Draft.handle_applyAll _ _
  have hOutputs : (exchange around arguments (.onDisk disk)).2.outputs =
      (client.flush sent.2).outputs := by
    rw [exchange_of_ready hReady hColons]
    dsimp only
    split
    next hPanic =>
      -- A command that breaks down has written nothing, so that nothing is left for the worker.
      rw [show sent.2 = session from Draft.send_snd_of_panic hPanic,
        client.outputs_flush_of_onCell hReady.untouched.hooks]
    next => rfl
  refine ⟨_, hReady.reported, ?_⟩
  rw [hOutputs, Client.stdout_flush_send hHandle hReady.untouched around]

/-- A command has a response, or breaks down, if its request does, and only then. -/
theorem exchange_eq_iff {around : Surroundings} (result : Except Setback Response)
    (hResult : ∀ failure, result ≠ .error (.failure failure)) :
    (exchange around arguments (.onDisk disk)).1 = result.mapError .ofSetback ↔
      ∃ client session, arguments.Ready disk client session ∧ arguments.HasColons ∧
        ((client.draft.applyAll arguments.steps).send around session).1 = result := by
  constructor
  · intro hExchange
    by_cases hReady : ∃ client session, arguments.Ready disk client session ∧ arguments.HasColons
    · obtain ⟨client, session, hReady, hColons⟩ := hReady
      rw [exchange_of_ready hReady hColons] at hExchange
      exact ⟨client, session, hReady, hColons,
        mapError_injective Fault.ofSetback_injective hExchange⟩
    · obtain ⟨fault, session, hEarly, hFault, -⟩ := exchange_of_not_ready
        (fun client session hThere hColons => hReady ⟨client, session, hThere, hColons⟩) around
      rw [hEarly] at hExchange
      rcases result with (failure | _) | _
      · exact absurd rfl (hResult failure)
      · cases hExchange
        exact absurd rfl hFault
      · cases hExchange
  · rintro ⟨client, session, hReady, hColons, hSent⟩
    rw [exchange_of_ready hReady hColons, ← hSent]

theorem exit_conclude_eq_zero_iff {result : Except Fault Response × Session} :
    (conclude result).exit = 0 ↔ ∃ response, result.1 = .ok response := by
  obtain ⟨(_ | _ | _ | _) | _, _⟩ := result <;> simp [conclude, Fault.message?]

theorem exit_conclude_eq_breakdown_iff {result : Except Fault Response × Session} :
    (conclude result).exit = 101 ↔ result.1 = .error .panic := by
  obtain ⟨(_ | _ | _ | _) | _, _⟩ := result <;> simp [conclude, Fault.message?]

/-- Of any other fault than a breakdown the command says something on standard error. -/
theorem conclude_of_ne_panic {fault : Fault} (h : fault ≠ .panic) (session : Session) :
    ∃ text, conclude (.error fault, session) = ⟨1, complain text session⟩ := by
  cases fault with
  | panic => exact absurd rfl h
  | _ => exact ⟨_, rfl⟩

/-- Without a response, nothing is printed on standard output. -/
theorem stdout_conclude_error (fault : Fault) (session : Session) :
    (conclude (.error fault, session)).session.outputs.stdout = session.outputs.stdout := by
  cases fault <;> rfl

/-- A command that gets a response ends well and prints the body last. -/
theorem conclude_of_answer {around : Surroundings} {response : Response}
    (hReady : arguments.Ready disk client session) (hColons : arguments.HasColons)
    (hSent : ((client.draft.applyAll arguments.steps).send around session).1 = .ok response) :
    let outcome := conclude (exchange around arguments (.onDisk disk))
    outcome.exit = 0 ∧
      Shows around arguments client session outcome.session.outputs.stdout response.body := by
  have hOk : (exchange around arguments (.onDisk disk)).1 = .ok response :=
    (exchange_eq_iff (.ok response) (by simp)).mpr ⟨client, session, hReady, hColons, hSent⟩
  refine ⟨exit_conclude_eq_zero_iff.mpr ⟨response, hOk⟩, ?_⟩
  rw [conclude, hOk]
  exact stdout_exchange hReady hColons around response.body

theorem steps_writes (arguments : Arguments) :
    arguments.steps.flatMap Draft.Call.writes = arguments.given := by
  have hHeaders (headers : List (String × String)) :
      (headers.map fun header => Draft.Call.header header.1 header.2).flatMap Draft.Call.writes =
        headers := by
    induction headers with
    | nil => rfl
    | cons header rest ih =>
        rw [List.map_cons, List.flatMap_cons, ih]
        rfl
  have hData : (arguments.data.toList.map fun data =>
      Draft.Call.body (Bytes.ofString data)).flatMap Draft.Call.writes = [] := by
    cases arguments.data <;> rfl
  rw [Arguments.steps, List.flatMap_append, List.flatMap_append, hHeaders, hData,
    List.append_nil]
  rfl

end Run

/-- Whatever the arguments are, whatever is on the disk and however the network behaves, a command
keeps to this account. -/
theorem run_keeps_account {words : List String} {arguments : Arguments}
    (h : Arguments.parse words = .ok arguments) (around : Surroundings) (disk : Disk) :
    Account around arguments disk (run around words (.onDisk disk)) := by
  have hRun : run around words (.onDisk disk) =
      conclude (exchange around arguments (.onDisk disk)) := by
    rw [run, h]
  rw [hRun]
  refine ⟨?exit, ?succeeds, ?breaks, ?answered, ?failed, ?early, fun _ _ hReady => hReady.logger,
    ?relayed, ?headers⟩
  case exit =>
    obtain ⟨fault | response, session⟩ := exchange around arguments (.onDisk disk)
    · by_cases hFault : fault = .panic
      · exact .inr (.inr (exit_conclude_eq_breakdown_iff.mpr (congrArg Except.error hFault)))
      · obtain ⟨text, hConclude⟩ := conclude_of_ne_panic hFault session
        exact .inr (.inl (congrArg Outcome.exit hConclude))
    · exact .inl rfl
  case succeeds =>
    rw [exit_conclude_eq_zero_iff]
    constructor
    · rintro ⟨response, hOk⟩
      obtain ⟨client, session, hSent⟩ := (exchange_eq_iff (.ok response) (by simp)).mp hOk
      exact ⟨client, session, response, hSent⟩
    · rintro ⟨client, session, response, hSent⟩
      exact ⟨response, (exchange_eq_iff (.ok response) (by simp)).mpr
        ⟨client, session, hSent⟩⟩
  case breaks =>
    rw [exit_conclude_eq_breakdown_iff]
    exact exchange_eq_iff (.error .panic) (by simp)
  case answered =>
    intro client session response hReady hColons hSent
    exact ⟨(conclude_of_answer hReady hColons hSent).2, Draft.body_of_isDiscarded hSent⟩
  case failed =>
    intro client session setback hReady hColons hSent
    have hShows := stdout_exchange hReady hColons around []
    have hError : (exchange around arguments (.onDisk disk)).1 = .error (.ofSetback setback) := by
      rw [exchange_of_ready hReady hColons, hSent]
      rfl
    rw [List.append_nil, ← stdout_conclude_error (.ofSetback setback), ← hError] at hShows
    exact hShows
  case early =>
    intro hNot
    obtain ⟨fault, session, hExchange, hFault, hUntouched, hStdout⟩ :=
      exchange_of_not_ready hNot around
    obtain ⟨text, hConclude⟩ := conclude_of_ne_panic hFault session
    rw [hExchange, hConclude]
    refine ⟨rfl, ⟨hUntouched.contacts, hUntouched.sinks, hUntouched.hooks⟩, ?_⟩
    rcases hStdout with hNone | ⟨client, hReady, hReported⟩
    · exact .inl hNone
    · exact .inr ⟨client, session, hReady, hReported⟩
  case relayed =>
    intro client session hReady draft number options request hPolicy hBuild cell stored moves
      traffic printed
    refine ⟨fun move => Traffic.full_of_refused (Traffic.sound_run_start ..),
      fun hLane hFlushed => ?_⟩
    obtain ⟨written, hOrder, hMissing, hAtOnce, hStdout⟩ := Draft.stdout_of_flushed hPolicy hBuild
      hReady.untouched.takesAll hLane hFlushed
    refine ⟨_, written, hReady.reported, hOrder, hMissing, hAtOnce, fun body => ?_⟩
    exact congrArg (· ++ body) hStdout
  case headers =>
    intro client session request hReady hBuild earlier raw later before after hHeaders hRaw hFirst
      hLast
    have hWrites : arguments.steps.flatMap Draft.Call.writes =
        earlier.filterMap splitHeader? ++
          (Blank.trim (String.ofList before), Blank.trim (String.ofList after)) ::
            later.filterMap splitHeader? := by
      rw [steps_writes, Arguments.given, hHeaders, List.filterMap_append,
        List.filterMap_cons_some (splitHeader?_of_colon hRaw hFirst)]
    exact Draft.getAll_of_last hBuild hWrites hLast

/-- A command dumps heads in the background and prints the body behind them; a header without a
colon keeps another one from sending anything. -/
theorem run_keeps_account_of_heads :
    let arrival : Arrival :=
      ⟨.http11, ⟨200, by decide, by decide⟩, .empty, [[111, 107]], .complete⟩
    let around : Surroundings := ⟨.replay [.answer arrival], ⟨∅⟩, 0⟩
    let disk : Disk := .ofHome []
    let outcome (header : String) : Outcome :=
      run around ["--dump=head", "--dump-async", "-H", header, "http://h/"] (.onDisk disk)
    let arguments (header : String) : Arguments :=
      ⟨"http://h/", "GET", [header], none, none, false, false, some .head, none, true, none, false⟩
    Account around (arguments "X-A: 1:2") disk (outcome "X-A: 1:2") ∧
      Account around (arguments "X-A") disk (outcome "X-A") ∧
      (outcome "X-A: 1:2").exit = 0 ∧
      (outcome "X-A: 1:2").session.outputs.stdout =
        Bytes.ofString
          "GET / HTTP/1.1\r\nHost: h\r\nx-a: 1:2\r\n\r\nHTTP/1.1 200 OK\r\n\r\nok" ∧
      (outcome "X-A").exit = 1 ∧ (outcome "X-A").session.contacts.length = 0 := by
  intro arrival around disk outcome arguments
  exact ⟨run_keeps_account (by decide +kernel) around disk,
    run_keeps_account (by decide +kernel) around disk, by decide +kernel, by decide +kernel,
    by decide +kernel, by decide +kernel⟩

section Loss

variable {arguments : Arguments} {disk : Disk} {client : Client} {session : Session}

/-- A command that dumps more records in the background than can wait, and does not dump them to a
file, ends well, but some of them are not on standard output if the worker does nothing before the
exchange is over. -/
theorem stdout_ne_of_crowd {around : Surroundings} {response : Response} {policy : Session.Policy}
    (hReady : arguments.Ready disk client session) (hColons : arguments.HasColons)
    (hSent : ((client.draft.applyAll arguments.steps).send around session).1 = .ok response)
    (hHook : session.policy? client.transport.handle.hook = some policy)
    (hAsync : policy.2.isAsync = true) (hFile : arguments.dumpFile = none)
    (hMany : queueLimit < ((client.draft.applyAll arguments.steps).printed around session).length)
    {logs : Bytes} (hLogs : arguments.Reported client logs) :
    (conclude (exchange around arguments (.onDisk disk))).session.outputs.stdout ≠
      logs ++ ((client.draft.applyAll arguments.steps).printed around session).flatten ++
        response.body := by
  have hNone {logs : Bytes} (h : arguments.Reported client logs) : logs = [] := by
    rcases h with hNil | ⟨-, path, -, hPath, -⟩
    · exact hNil
    · rw [hFile] at hPath
      cases hPath
  have hHandle : (client.draft.applyAll arguments.steps).handle = client.transport.handle :=
    Draft.handle_applyAll _ _
  obtain ⟨-, written, hWritten, hStdout⟩ := conclude_of_answer hReady hColons hSent
  rw [hStdout, hNone hWritten, hNone hLogs]
  intro hSame
  rw [← hHandle] at hHook
  have hLess := Draft.length_flatten_shown_lt hHook hAsync hMany
  have hLength := congrArg List.length hSame
  simp only [List.nil_append, List.length_append] at hLength
  omega

/-- What a command that tests a server and dumps in the background sends, and under which
settings. -/
theorem exists_ready_in_background :
    let arguments : Arguments :=
      ⟨"http://h/", "GET", [], none, none, false, true, none, none, true, none, false⟩
    let options : Options := ⟨.all, true, some .stdout⟩
    ∃ client session request, arguments.Ready (.ofHome []) client session ∧
      (client.draft.applyAll arguments.steps).build = .ok request ∧
      request.isSendable = true ∧ request.isSpoken = true ∧ request.body = none ∧
      session.policy? client.transport.handle.hook = some (0, options) ∧
      options.place? session.outputs = some .stdout ∧
      client.transport.handle.treatment = ⟨true, true⟩ ∧ session.contacts.length = 0 := by
  intro arguments options
  obtain ⟨client, session, hReady, hSettings, hSays⟩ :
      ∃ client session, arguments.Ready (.ofHome []) client session ∧
        (session.policy? client.transport.handle.hook = some (0, options) ∧
          options.place? session.outputs = some .stdout ∧
          client.transport.handle.treatment = ⟨true, true⟩ ∧ session.contacts.length = 0) ∧
        (client.draft.applyAll arguments.steps).build.toOption.map (fun request =>
          (request.isSendable, request.isSpoken, request.body)) = some (true, true, none) :=
    ⟨_, _, ⟨_, _, rfl, Client.ofConfig_standard _, rfl⟩, by decide +kernel⟩
  cases hBuild : (client.draft.applyAll arguments.steps).build with
  | error setback =>
      rw [hBuild] at hSays
      cases hSays
  | ok request =>
      rw [hBuild] at hSays
      simp only [Except.toOption, Option.map_some, Option.some.injEq, Prod.mk.injEq] at hSays
      obtain ⟨hSendable, hSpoken, hBody⟩ := hSays
      exact ⟨client, session, request, hReady, hBuild, hSendable, hSpoken, hBody, hSettings⟩

/-- A command tests a server and dumps in the background.  Its exchange has as many records as the
response has pieces, two heads, and the line end behind the body. -/
theorem length_printed_in_pieces (chunks : List Bytes) (hChunks : ∀ chunk ∈ chunks, chunk ≠ []) :
    let arrival : Arrival := ⟨.http11, ⟨200, by decide, by decide⟩, .empty, chunks, .complete⟩
    let around : Surroundings := ⟨.replay [.answer arrival], ⟨∅⟩, 0⟩
    let arguments : Arguments :=
      ⟨"http://h/", "GET", [], none, none, false, true, none, none, true, none, false⟩
    ∃ client session policy response, arguments.Ready (.ofHome []) client session ∧
      session.policy? client.transport.handle.hook = some policy ∧ policy.2.isAsync = true ∧
      ((client.draft.applyAll arguments.steps).send around session).1 = .ok response ∧
      ((client.draft.applyAll arguments.steps).printed around session).length =
        chunks.length + 3 := by
  intro arrival around arguments
  obtain ⟨client, session, request, hReady, hBuild, hSendable, hSpoken, hBody, hPolicy, hPlace,
    hDiscards, hContacts⟩ := exists_ready_in_background
  have hHandle : (client.draft.applyAll arguments.steps).handle = client.transport.handle :=
    Draft.handle_applyAll _ _
  have hReply (route : Config.Proxy) (sent : Request) :
      around.network session.contacts route sent = .answer arrival := by
    show ([Reply.answer arrival][session.contacts.length]?).getD .refused = _
    rw [hContacts]
    rfl
  have hOutcome : (Exchange.fetched around client.transport.handle request session).outcome =
      .ok (request.url, arrival) :=
    outcome_fetch_of_answer hSendable hSpoken (hReply _ _) rfl
  refine ⟨client, session, _, arrival.response request.url [] true, hReady, hPolicy, rfl, ?_, ?_⟩
  · rw [Draft.send_of_build_ok hBuild, Draft.told_eq_ok_iff, Exchange.run_fst, hHandle, hOutcome,
      hDiscards]
    rfl
  · have hAsked := hPolicy
    rw [← hHandle] at hAsked
    rw [Draft.printed_eq_filter hAsked hBuild hPlace, hHandle, hOutcome, hDiscards]
    exact Exchange.length_records_of_pieces hBody rfl rfl hChunks request.url

/-- A response that is dropped comes in more pieces than records can wait.  The command ends well,
but standard output does not hold all of them. -/
theorem run_loses_records :
    let arrival : Arrival :=
      ⟨.http11, ⟨200, by decide, by decide⟩, .empty, List.replicate 1100 [120], .complete⟩
    let around : Surroundings := ⟨.replay [.answer arrival], ⟨∅⟩, 0⟩
    let arguments : Arguments :=
      ⟨"http://h/", "GET", [], none, none, false, true, none, none, true, none, false⟩
    let outcome := run around ["--test", "--dump-async", "http://h/"] (.onDisk (.ofHome []))
    ∃ client session response, arguments.Ready (.ofHome []) client session ∧
      ((client.draft.applyAll arguments.steps).send around session).1 = .ok response ∧
      outcome.exit = 0 ∧
      let printed := (client.draft.applyAll arguments.steps).printed around session
      printed.length = 1103 ∧
        ∀ logs, arguments.Reported client logs →
          outcome.session.outputs.stdout ≠ logs ++ printed.flatten ++ response.body := by
  intro arrival around arguments outcome
  have hChunks : ∀ chunk ∈ List.replicate 1100 ([120] : Bytes), chunk ≠ [] := by
    intro chunk hMem
    rw [List.eq_of_mem_replicate hMem]
    exact List.cons_ne_nil _ _
  obtain ⟨client, session, policy, response, hReady, hPolicy, hAsync, hSent, hLength⟩ :
      ∃ client session policy response, arguments.Ready (.ofHome []) client session ∧
        session.policy? client.transport.handle.hook = some policy ∧ policy.2.isAsync = true ∧
        ((client.draft.applyAll arguments.steps).send around session).1 = .ok response ∧
        ((client.draft.applyAll arguments.steps).printed around session).length =
          (List.replicate 1100 ([120] : Bytes)).length + 3 :=
    length_printed_in_pieces _ hChunks
  rw [List.length_replicate] at hLength
  have hColons : arguments.HasColons := fun raw hMem => absurd hMem List.not_mem_nil
  have hParse : Arguments.parse ["--test", "--dump-async", "http://h/"] = .ok arguments := by
    decide +kernel
  have hOutcome : outcome = conclude (exchange around arguments (.onDisk (.ofHome []))) := by
    rw [show outcome = run _ _ _ from rfl, run, hParse]
  rw [hOutcome]
  refine ⟨client, session, response, hReady, hSent, (conclude_of_answer hReady hColons hSent).1,
    hLength, fun logs => ?_⟩
  refine stdout_ne_of_crowd hReady hColons hSent hPolicy hAsync rfl ?_
  rw [hLength]
  decide

end Loss

end Command
end Wiretap
