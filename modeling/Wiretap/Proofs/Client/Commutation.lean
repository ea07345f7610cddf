import Wiretap.Proofs.Client.Effect
import Wiretap.Proofs.Session.Reported
import Wiretap.Proofs.World.Sound

/-!
# The order of calls

Calls that write different things can be made in any order, and a call that is made
twice has been made once.  It takes a table of what each call writes to say so: arming
comes with many calls, and it does no harm that two of them arm.

* `Client.Aspect` is something that a call may write, and `Call.aspects` is the table.
* `Call.Compatible` says that two calls write different things, or share nothing but that
  both arm; `Client.apart_of_compatible` says that their effects are then apart.
* `World.calls_commute` says it of every client that a program can reach.
-/

namespace Wiretap

namespace Client

/-- Something that a call may write. -/
inductive Aspect where
  /-- The header of a name without regard to case. -/
  | header (key : String)
  /-- The bound on time. -/
  | timeout
  /-- Whether text is decoded. -/
  | decode
  /-- Whether bodies are dropped. -/
  | discard
  /-- The policy on proxies. -/
  | proxy
  /-- The logger. -/
  | logger
  /-- The parts that are captured. -/
  | flags
  /-- Whether records are written in the background. -/
  | isAsync
  /-- Where records go. -/
  | output
  /-- Whether exchanges are dumped. -/
  | arming
deriving DecidableEq

/-- The flag that a change addresses. -/
def aspectOf : Treatment.Change → Aspect
  | .decode => .decode
  | .keepRaw => .decode
  | .discard => .discard
  | .keep => .discard

/-- The name of the program as something to be written. -/
def agentAspect : Aspect := .header (Ascii.lower Config.userAgentName)

namespace Call

/-- What a call writes. -/
def aspects : Call → List Aspect
  | .header name _ => [.header (Ascii.lower name)]
  | .headers list => list.map fun header => .header (headerKey header)
  | .userAgent _ => [agentAspect]
  | .timeout _ => [.timeout]
  | .proxy _ => [.proxy]
  | .treat list => list.map aspectOf
  | .logger _ => [.logger]
  | .dump _ => [.arming]
  | .options _ => [.flags, .isAsync, .output]
  | .preset _ => [.flags, .arming]
  | .dumpTo _ => [.output, .arming]
  | .dumpToFile _ => [.output, .arming]
  | .dumpAsync => [.isAsync, .arming]
  | .debugMode => [.decode, .arming, .logger, agentAspect]
  | .testMode => [.decode, .discard, .arming, .logger, agentAspect]

/-- Whether a call arms. -/
def arms : Call → Bool
  | .dump enable => enable
  | .preset _ => true
  | .dumpTo _ => true
  | .dumpToFile _ => true
  | .dumpAsync => true
  | .debugMode => true
  | .testMode => true
  | _ => false

/-- Two calls write different things, or share nothing but that both arm. -/
def Compatible (c d : Call) : Prop :=
  ∀ aspect ∈ c.aspects, aspect ∈ d.aspects →
    aspect = .arming ∧ c.arms = true ∧ d.arms = true

instance (c d : Call) : Decidable (Compatible c d) :=
  inferInstanceAs (Decidable (∀ aspect ∈ c.aspects, _))

end Call

/-- Whether an effect sets something. -/
def Effect.Touches (effect : Effect) : Aspect → Prop
  | .header key => key ∈ effect.writes.map headerKey
  | .timeout => effect.timeout.isSome = true
  | .decode => (effect.changes.filterMap Treatment.Change.decodes?).getLast?.isSome = true
  | .discard => (effect.changes.filterMap Treatment.Change.discards?).getLast?.isSome = true
  | .proxy => effect.proxy.isSome = true
  | .logger => effect.logger.isSome = true
  | .flags => effect.order.flags?.isSome = true
  | .isAsync => effect.order.isAsync?.isSome = true
  | .output => effect.order.output?.isSome = true
  | .arming => effect.order.arms?.isSome = true

theorem exists_of_isSome_getLast? {α β : Type} {pick : α → Option β} {list : List α}
    (h : (list.filterMap pick).getLast?.isSome = true) :
    ∃ entry ∈ list, (pick entry).isSome = true := by
  obtain ⟨last, hLast⟩ := Option.isSome_iff_exists.mp h
  obtain ⟨entry, hMem, hPick⟩ := List.mem_filterMap.mp (List.mem_of_getLast? hLast)
  exact ⟨entry, hMem, Option.isSome_of_eq_some hPick⟩

/-- What the effect of a call sets is in the table. -/
theorem mem_aspects_of_touches {session : Session} {c : Call} {aspect : Aspect}
    (h : (c.effect session).Touches aspect) : aspect ∈ c.aspects := by
  cases c with
  | header name value =>
      cases aspect with
      | header key =>
          rw [List.mem_singleton.mp h]
          exact List.mem_singleton.mpr rfl
      | _ => cases h
  | headers list =>
      cases aspect with
      | header key =>
          obtain ⟨header, hMem, rfl⟩ := List.mem_map.mp h
          exact List.mem_map_of_mem hMem
      | _ => cases h
  | userAgent value =>
      cases aspect with
      | header key =>
          rw [List.mem_singleton.mp h]
          exact List.mem_singleton.mpr rfl
      | _ => cases h
  | treat list =>
      cases aspect with
      | decode =>
          obtain ⟨change, hMem, hSome⟩ := exists_of_isSome_getLast? h
          have hAspect : aspectOf change = .decode := by
            cases change <;> first | rfl | cases hSome
          exact hAspect ▸ List.mem_map_of_mem hMem
      | discard =>
          obtain ⟨change, hMem, hSome⟩ := exists_of_isSome_getLast? h
          have hAspect : aspectOf change = .discard := by
            cases change <;> first | rfl | cases hSome
          exact hAspect ▸ List.mem_map_of_mem hMem
      | _ => cases h
  | dump enable =>
      cases aspect with
      | arming => exact List.mem_singleton.mpr rfl
      | _ => cases enable <;> cases h
  | dumpToFile path =>
      -- Whether the file can be opened or not, nothing is set besides the output and arming.
      cases hOpen : session.outputs.openFile path with
      | error fault =>
          simp only [Call.effect, Call.order, hOpen, Order.ofOpened] at h
          cases aspect <;> cases h
      | ok opened =>
          simp only [Call.effect, Call.order, hOpen, Order.ofOpened] at h
          cases aspect <;> first | (simp [Call.aspects]; done) | cases h
  | debugMode =>
      cases aspect with
      | header key =>
          rw [List.mem_singleton.mp h]
          simp [Call.aspects, agentAspect, headerKey]
      | _ => first | (simp [Call.aspects]; done) | cases h
  | testMode =>
      cases aspect with
      | header key =>
          rw [List.mem_singleton.mp h]
          simp [Call.aspects, agentAspect, headerKey]
      | _ => first | (simp [Call.aspects]; done) | cases h
  | _ => cases aspect <;> first | (simp [Call.aspects]; done) | cases h

theorem arms?_of_arms {session : Session} {c : Call} (hArms : c.arms = true)
    (hSome : (c.order session).arms?.isSome = true) : (c.order session).arms? = some true := by
  cases c with
  | dump enable =>
      cases enable with
      | true => rfl
      | false => cases hArms
  | dumpToFile path =>
      cases hOpen : session.outputs.openFile path with
      | error fault =>
          rw [Call.order, hOpen] at hSome
          cases hSome
      | ok opened =>
          rw [Call.order, hOpen]
          rfl
  | preset parts => rfl
  | dumpTo output => rfl
  | dumpAsync => rfl
  | debugMode => rfl
  | testMode => rfl
  | _ => cases hArms

/-- Compatible calls have effects that are apart. -/
theorem apart_of_compatible {c d : Call} (h : Call.Compatible c d) (session : Session) :
    (c.effect session).Apart (d.effect session) := by
  have hShared (aspect : Aspect) (hFirst : (c.effect session).Touches aspect)
      (hSecond : (d.effect session).Touches aspect) :
      aspect = .arming ∧ c.arms = true ∧ d.arms = true :=
    h aspect (mem_aspects_of_touches hFirst) (mem_aspects_of_touches hSecond)
  have hOther (aspect : Aspect) (hAspect : aspect ≠ .arming)
      (hFirst : (c.effect session).Touches aspect) (hSecond : (d.effect session).Touches aspect) :
      False := hAspect (hShared aspect hFirst hSecond).1
  constructor
  case writes =>
    intro header hHeader other hOther' hKey
    have hFirst : (c.effect session).Touches (.header (headerKey header)) :=
      List.mem_map_of_mem hHeader
    have hSecond : (d.effect session).Touches (.header (headerKey header)) :=
      hKey ▸ List.mem_map_of_mem hOther'
    exact hOther _ (by rintro ⟨⟩) hFirst hSecond
  case timeout => exact agree_of_not_both (hOther .timeout (by rintro ⟨⟩))
  case decode => exact agree_of_not_both (hOther .decode (by rintro ⟨⟩))
  case discard => exact agree_of_not_both (hOther .discard (by rintro ⟨⟩))
  case proxy => exact agree_of_not_both (hOther .proxy (by rintro ⟨⟩))
  case logger => exact agree_of_not_both (hOther .logger (by rintro ⟨⟩))
  case flags => exact agree_of_not_both (hOther .flags (by rintro ⟨⟩))
  case isAsync => exact agree_of_not_both (hOther .isAsync (by rintro ⟨⟩))
  case output => exact agree_of_not_both (hOther .output (by rintro ⟨⟩))
  case arming =>
    -- Arming may be shared: both calls then set it to the same.
    cases hFirst : (c.effect session).order.arms? with
    | none => exact Or.inl rfl
    | some arms =>
        cases hSecond : (d.effect session).order.arms? with
        | none => exact Or.inr (Or.inl rfl)
        | some arms' =>
            have hFirst' := Option.isSome_of_eq_some hFirst
            have hSecond' := Option.isSome_of_eq_some hSecond
            obtain ⟨-, hArms, hArms'⟩ := hShared .arming hFirst' hSecond'
            rw [← hFirst, ← hSecond]
            exact Or.inr (Or.inr
              ((arms?_of_arms hArms hFirst').trans (arms?_of_arms hArms' hSecond').symm))

theorem sinks_log (logger : Logger) (message : String) (outputs : Dump.Outputs) :
    (logger.log message outputs).sinks = outputs.sinks := by
  cases logger with
  | writer place => exact outputs.sinks_deposit place _ _
  | _ => rfl

/-- Only a call that opens a file opens a sink. -/
theorem sinks_call (client : Client) (session : Session) {c : Call}
    (hFile : ∀ path, c ≠ .dumpToFile path) :
    (client.call session c).2.outputs.sinks = session.outputs.sinks := by
  cases c with
  | dumpToFile path => exact absurd rfl (hFile path)
  | proxy policy =>
      cases hUsable : policy.isUsable with
      | true => rw [call, client.setProxy_of_isUsable session hUsable]
      | false =>
          rw [call, client.setProxy_of_not_isUsable session hUsable]
          exact sinks_log client.logger _ _
  | _ =>
      exact congrArg Dump.Outputs.sinks
        (client.outputs_call session (by rintro _ ⟨⟩) (by rintro _ ⟨⟩))

/-- What comes of opening a file depends on the directories and on how many sinks there are. -/
theorem ofOpened_openFile (outputs : Dump.Outputs) (path : String) :
    Order.ofOpened (outputs.openFile path) =
      if (outputs.disk.create path).toOption.isSome then
        .output ⟨path, outputs.sinks.length⟩
      else .nothing := by
  unfold Dump.Outputs.openFile Dump.Outputs.openFileAs
  cases outputs.disk.create path <;> rfl

/-- A call that comes first does not change what a call that is compatible with it sets.  Only the
order to dump into a file reads the session: the directories, and how many sinks there are. -/
theorem effect_after (client : Client) (session : Session) {c d : Call}
    (h : Call.Compatible c d) : d.effect (client.call session c).2 = d.effect session := by
  suffices hOrder : d.order (client.call session c).2 = d.order session by
    rw [Call.effect, Call.effect, hOrder]
  cases d with
  | dumpToFile path =>
      have hFile : ∀ other, c ≠ .dumpToFile other := by
        rintro other rfl
        exact absurd (h .output (by simp [Call.aspects]) (by simp [Call.aspects])).1 (by rintro ⟨⟩)
      have hGround := (client.evolves_call session c).confined.outputs.ground
      have hSinks := client.sinks_call session hFile
      have hCreate := congrArg Option.isSome (Disk.toOption_create hGround path)
      rw [Option.isSome_map, Option.isSome_map] at hCreate
      rw [Call.order, Call.order, ofOpened_openFile, ofOpened_openFile, hCreate, hSinks]
  | dump enable => cases enable <;> rfl
  | _ => rfl

section Twice

variable {client : Client} {session : Session} (h : client.Fits session)
include h

theorem state_pair (c d : Call) :
    (client.callAll session [c, d]).1.state (client.callAll session [c, d]).2 =
      (d.effect (client.call session c).2).apply
        ((c.effect session).apply (client.state session)) := by
  have hFits := (client.evolves_call session c).fits h
  rw [callAll_cons, callAll_cons]
  show ((client.call session c).1.call (client.call session c).2 d).1.state _ = _
  rw [← state_call h]
  exact state_call hFits d

/-- Compatible calls come to the same in either order. -/
theorem sorted_pair_comm {c d : Call} (hCompatible : Call.Compatible c d) :
    ((client.callAll session [c, d]).1.state (client.callAll session [c, d]).2).sorted =
      ((client.callAll session [d, c]).1.state (client.callAll session [d, c]).2).sorted := by
  have hSwapped : Call.Compatible d c := fun aspect hFirst hSecond =>
    have hShared := hCompatible aspect hSecond hFirst
    ⟨hShared.1, hShared.2.2, hShared.2.1⟩
  rw [state_pair h, state_pair h, effect_after client session hCompatible,
    effect_after client session hSwapped]
  exact Effect.apply_comm (apart_of_compatible hCompatible session) (client.state session)

/-- A call that is made again does not change what has been set, unless it opens a file again. -/
theorem state_twice {c : Call} (hFile : ∀ path, c ≠ .dumpToFile path) :
    (client.callAll session [c, c]).1.state (client.callAll session [c, c]).2 =
      (client.callAll session [c]).1.state (client.callAll session [c]).2 := by
  have hEffect : c.effect (client.call session c).2 = c.effect session := by
    cases c with
    | dumpToFile path => exact absurd rfl (hFile path)
    | dump enable => cases enable <;> rfl
    | _ => rfl
  have hOnce : (client.callAll session [c]).1.state (client.callAll session [c]).2 =
      (c.effect session).apply (client.state session) := state_call h c
  rw [state_pair h, hEffect, hOnce]
  exact Effect.apply_apply _ _

/-- A file that is opened again gives another handle to the same place. -/
theorem alike_twice (c : Call) :
    State.Alike (client.callAll session [c]).2.outputs (client.callAll session [c, c]).2.outputs
      ((client.callAll session [c]).1.state (client.callAll session [c]).2)
      ((client.callAll session [c, c]).1.state (client.callAll session [c, c]).2) := by
  have hOnce : (client.callAll session [c]).1.state (client.callAll session [c]).2 =
      (c.effect session).apply (client.state session) := state_call h c
  have hGround := (client.evolves_call session c).confined.outputs.ground
  -- The second order differs from the first by the handle; putting the first in again changes
  -- nothing.
  have hOrder := alike_order client (client.call session c).1 hGround.symm c
  rw [state_pair h, hOnce]
  have hSame := State.Alike.refl (client.call session c).2.outputs
    ((client.call session c).1.call (client.call session c).2 c).2.outputs
    ((c.effect session).apply (client.state session))
  refine ⟨?_, ?_, ?_⟩
  · exact (Effect.reshape_reshape (c.effect session) _).symm
  · show (c.order session).arms?.getD client.isArmed =
      (c.order (client.call session c).2).arms?.getD
        ((c.order session).arms?.getD client.isArmed)
    rw [← hOrder.arms?, getD_getD]
  · have hFilled := hOrder.fill hSame.options
    have hAgain := (c.order session).fill_fill (client.options? session)
    show Option.Rel _ ((c.order session).fill (client.options? session)) _
    rw [← hAgain]
    exact hFilled

end Twice

end Client

namespace World

/-- Of any client that a program can reach: two calls that write different things, or share nothing
but that both arm, come to the same state in either order, and a call that is made twice comes to
the same state as if it had been made once.  Where it opens a file, the second handle leads to the
same place as the first. -/
theorem calls_commute (start : Session) (history : List Action) (number : Nat) {member : Member}
    (hMember : ((on start).run history).member? number = some member) :
    let session := ((on start).run history).session
    let after := fun calls : List Client.Call => member.client.callAll session calls
    let state := fun calls => (after calls).1.state (after calls).2
    (∀ c d, Client.Call.Compatible c d → (state [c, d]).sorted = (state [d, c]).sorted) ∧
      ∀ c, ((∀ path, c ≠ .dumpToFile path) → state [c, c] = state [c]) ∧
        Client.State.Alike (after [c]).2.outputs (after [c, c]).2.outputs
          (state [c]) (state [c, c]) := by
  have hSound := sound_run (sound_on start) history
  have hFits := hSound.fits number member hMember
  refine ⟨fun c d => Client.sorted_pair_comm hFits, fun c => ⟨?_, ?_⟩⟩
  · exact fun hFile => Client.state_twice hFits hFile
  · exact Client.alike_twice hFits c

/-- A mode that arms and a call that arms come to the same in either order; switching dumping off
is another matter. -/
theorem calls_commute_of_arming :
    ∃ member, ((on (.onDisk (.ofHome []))).run [.build .standard]).member? 0 = some member ∧
      let session := ((on (.onDisk (.ofHome []))).run [.build .standard]).session
      let state := fun calls =>
        (member.client.callAll session calls).1.state (member.client.callAll session calls).2
      Client.Call.Compatible .testMode .dumpAsync ∧
        ¬ Client.Call.Compatible (.dump false) .dumpAsync ∧
        (state [.testMode, .dumpAsync]).sorted = (state [.dumpAsync, .testMode]).sorted ∧
        (state [.testMode, .dumpAsync]).options =
          some { Dump.Options.standard with isAsync := true } ∧
        state [.testMode, .testMode] = state [.testMode] := by
  have hCommute := calls_commute (.onDisk (.ofHome [])) [.build .standard] 0 rfl
  refine ⟨_, rfl, by decide, by decide, ?_, rfl, ?_⟩
  · exact hCommute.1 .testMode .dumpAsync (by decide)
  · exact (hCommute.2 .testMode).1 (by rintro path ⟨⟩)

end World
end Wiretap
