import Wiretap.Proofs.Client.Unmoved
import Wiretap.Proofs.World.Sound

/-!
# Calls that are refused

A file may turn out not to be creatable, and a policy on proxies to be of no use.  Then
the call is reported and nothing else happens: the client is what it was, and whatever a
program does later comes to the same as if the call had not been made.

* `Client.Refuses` says that a call cannot be made, and what is reported of it.
* `World.Beside` compares two worlds; `World.beside_step` and `World.beside_run` say that
  whatever is done goes the same way in both.
* `World.refused_call_leaves_report` says what a refused call comes to.
-/

namespace Wiretap

namespace Client

/-- A call cannot be made, which leads to a warning and a message. -/
inductive Refuses (client : Client) (session : Session) : Call → Dump.Warning → String → Prop
  | file {path : String} {fault : Disk.Fault}
      (h : session.outputs.disk.create path = .error fault) :
      Refuses client session (.dumpToFile path) .fileNotCreated (fileReport fault)
  | proxy {proxy : Config.Proxy} {failure : Failure}
      (h : Pool.build? { client.transport.config with proxy := proxy } client.transport.timeouts
        client.transport.jar = .error failure) :
      Refuses client session (.proxy proxy) .proxyRejected
        ("set proxy error: " ++ failure.message)

/-- What is reported of a call that a client refuses. -/
def reportOf (client : Client) (session : Session) (warning : Dump.Warning) (message : String) :
    Report :=
  ⟨client.logger, message, warning, session.outputs⟩

theorem call_of_refuses {client : Client} {session : Session} {c : Call} {warning : Dump.Warning}
    {message : String} (h : client.Refuses session c warning message) :
    client.call session c =
      (client,
        { session with outputs := (client.reportOf session warning message).sent }) := by
  cases h with
  | file hCreate =>
      simp only [call, dumpToFile, Dump.Outputs.openFile, Dump.Outputs.openFileAs, hCreate]
      rfl
  | proxy hPool =>
      simp only [call, setProxy, Transport.setProxy_of_build_error hPool]
      rfl

end Client

namespace World

/-- Worlds differ by a report in their outputs at most. -/
inductive Beside (report : Report) (left : World) : World → Prop
  | intro (session : Session) (h : Session.Beside report left.session session) :
      Beside report left { left with session := session }

section Beside

variable {report : Report} {left right : World}

theorem Beside.members (h : Beside report left right) : right.members = left.members := by
  obtain ⟨session, -⟩ := h
  rfl

theorem Beside.cells (h : Beside report left right) :
    right.session.cells = left.session.cells := by
  obtain ⟨session, hSession⟩ := h
  obtain ⟨outputs, -⟩ := hSession
  rfl

/-- Everything that is done goes the same way in both worlds. -/
theorem beside_step (hSound : left.Sound) (hSound' : right.Sound) (h : Beside report left right)
    (action : Action) : Beside report (left.step action) (right.step action) := by
  obtain ⟨session, hSession⟩ := h
  have hMembers (number : Nat) :
      ({ left with session := session } : World).member? number = left.member? number := rfl
  have hDrafts (number : Nat) :
      ({ left with session := session } : World).draft? number = left.draft? number := rfl
  cases action with
  | build config =>
      rcases Client.same_ofConfig hSession config with
        ⟨failure, hLeft, hRight⟩ | ⟨built, built', hLeft, hRight, hClient, hBuilt⟩
      · simp only [step, hLeft, hRight]
        exact .intro session hSession
      · simp only [step, hLeft, hRight, join, hClient]
        exact .intro built'.2 hBuilt
  | copy number =>
      simp only [step, hMembers]
      cases hMember : left.member? number with
      | none => exact .intro session hSession
      | some member =>
          obtain ⟨hClient, hCopied⟩ := Client.same_copy hSession
            (hSound.fits number member hMember) (hSound'.fits number member hMember)
          simp only [join, hClient]
          exact .intro _ hCopied
  | call number c =>
      simp only [step, hMembers]
      cases left.member? number with
      | none => exact .intro session hSession
      | some member =>
          obtain ⟨hClient, hCalled⟩ := Client.same_call hSession member.client c
          simp only [put, hClient]
          exact .intro _ hCalled
  | flush number =>
      simp only [step, hMembers]
      cases left.member? number with
      | none => exact .intro session hSession
      | some member => exact .intro _ (Client.beside_flush hSession member.client)
  | drop number => exact .intro session hSession
  | draft number =>
      simp only [step, hMembers]
      cases left.member? number <;> exact .intro session hSession
  | shape number c => exact .intro session hSession
  | send around number =>
      simp only [step, hDrafts]
      cases left.draft? number with
      | none => exact .intro session hSession
      | some draft => exact .intro _ (Draft.same_send hSession around draft).session
  | work hook => exact .intro _ (Session.beside_onHook hSession hook Dump.Hook.overlooks_step)
  | sink label place rule =>
      obtain ⟨outputs, hOutputs⟩ := hSession
      have hOpened := (Dump.Outputs.beside_openSink hOutputs label place rule).2
      exact .intro _ (.intro _ hOpened)

-- What a copy comes to is known of clients that fit their session, so both worlds have to be sound
-- on the way.
theorem beside_run (hSound : left.Sound) (hSound' : right.Sound) (h : Beside report left right)
    (actions : List Action) : Beside report (left.run actions) (right.run actions) := by
  induction actions generalizing left right with
  | nil => exact h
  | cons action rest ih =>
      exact ih (sound_step hSound action) (sound_step hSound' action)
        (beside_step hSound hSound' h action)

end Beside

/-- A client that is put back as it was leaves the others where they were. -/
theorem put_self {world : World} {number : Nat} {member : Member}
    (h : world.member? number = some member) (session : Session) :
    world.put number (member.client, session) member.family =
      { world with session := session } := by
  have hFound : world.members[number]? = some (some member) := Option.join_eq_some_iff.mp h
  obtain ⟨hLt, hEntry⟩ := List.getElem?_eq_some_iff.mp hFound
  have hSet : world.members.set number (some member) = world.members := by
    rw [← hEntry, List.set_getElem_self]
  exact congrArg (fun members => { world with session := session, members := members }) hSet

/-- A call that a client refuses, in any world that a program can reach, changes nothing but the
outputs, and these by one warning and one message to the logger of the client.  Whatever is done
from then on, by the client or by others, comes to what it would have come to without that call:
the worlds differ by the report and by nothing else, and a request that is sent gives the same. -/
theorem refused_call_leaves_report (start : Session) (history : List Action) (number : Nat)
    {member : Member} (hMember : ((on start).run history).member? number = some member)
    {c : Client.Call} {warning : Dump.Warning} {message : String}
    (hRefuses : member.client.Refuses ((on start).run history).session c warning message) :
    let world := (on start).run history
    let refused := world.step (.call number c)
    let report := member.client.reportOf world.session warning message
    let outputs := member.client.logger.log message (world.session.outputs.warn warning)
    refused = { world with session := { world.session with outputs := outputs } } ∧
      ∀ actions : List Action,
        Beside report (world.run actions) (refused.run actions) ∧
          ∀ around (draft : Draft),
            (draft.send around (refused.run actions).session).1 =
              (draft.send around (world.run actions).session).1 := by
  intro world refused report outputs
  have hSound : world.Sound := sound_run (sound_on start) history
  have hRefused :
      refused = { world with session := { world.session with outputs := outputs } } := by
    have hStep : refused =
        world.put number (member.client.call world.session c) member.family := by
      simp only [refused, step, world, hMember]
    rw [hStep, Client.call_of_refuses hRefuses, put_self hMember]
    rfl
  refine ⟨hRefused, fun actions => ?_⟩
  have hStart : Beside report world refused := by
    rw [hRefused]
    exact .intro _ (.intro _ (Dump.Outputs.beside_sent report))
  have hRun := beside_run hSound (sound_step hSound _) hStart actions
  refine ⟨hRun, fun around draft => ?_⟩
  generalize refused.run actions = after at hRun ⊢
  obtain ⟨session, hSession⟩ := hRun
  exact (Draft.same_send hSession around draft).result

/-- A file without a name cannot be created.  The logger is told so, and what is done later comes to
the same clients and the same options. -/
theorem refused_call_leaves_report_of_no_name :
    let world := (on (.onDisk (.ofHome []))).run
      [.build .standard, .call 0 (.logger (some (.writer .stdout)))]
    let refused := world.step (.call 0 (.dumpToFile ""))
    let actions : List Action :=
      [.call 0 (.dumpTo .stdout), .call 0 (.preset .head), .draft 0, .copy 0]
    refused.session.outputs.stdout =
        Bytes.ofString "create dump file error: No such file or directory (os error 2)\n" ∧
      refused.session.outputs.warnings = [.fileNotCreated] ∧
        (refused.run actions).members = (world.run actions).members ∧
          (refused.run actions).session.cells = (world.run actions).session.cells := by
  have hCreate : ((on (.onDisk (.ofHome []))).run [.build .standard,
      .call 0 (.logger (some (.writer .stdout)))]).session.outputs.disk.create "" =
        .error .notFound := rfl
  have hRefused := refused_call_leaves_report (.onDisk (.ofHome []))
    [.build .standard, .call 0 (.logger (some (.writer .stdout)))] 0 rfl (.file hCreate)
  have hLater := (hRefused.2
    [.call 0 (.dumpTo .stdout), .call 0 (.preset .head), .draft 0, .copy 0]).1
  refine ⟨rfl, rfl, ?_, ?_⟩
  · exact hLater.members
  · exact hLater.cells

end World
end Wiretap
