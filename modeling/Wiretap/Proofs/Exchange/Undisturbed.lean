import Wiretap.Proofs.Exchange.Traffic
import Wiretap.Proofs.Exchange.Transcript
import Wiretap.Proofs.Relay.Conservation

/-!
# Exchanges one after the other

An exchange that goes through a hook while nothing else happens does what `Exchange.run` does in a
session: each call writes as the hook does, and so the exchange writes the same records with
the same effect.

* `Traffic.run_turns` says what the turns of an exchange do; `Traffic.alone` are all the moves of
  an exchange during which nothing else happens.
* `Traffic.StandsFor` compares a hook among exchanges with a hook of a session.
* `Traffic.standsFor_run` says that such an exchange keeps them equal.
-/

namespace Wiretap

open Dump

namespace Traffic

variable {outputs : Outputs} {traffic : Traffic} {exchange : Nat} {lane : Lane}

/-- A number of turns of an exchange: in each it writes a record and sees it on its way. -/
def turns (exchange : Nat) : Nat → List Move
  | 0 => []
  | times + 1 =>
    .write exchange :: .relay (.offer exchange) :: .relay (.giveUp exchange) ::
      turns exchange times

/-- An exchange during which nothing else happens: it starts, writes its request, gets what comes
back, and writes that. -/
def alone (exchange : Nat) (request : Request) (treatment : Treatment) (flags : Flags)
    (outcome : Except Halt (Url × Arrival)) : List Move :=
  .start exchange request treatment ::
    turns exchange (Exchange.requestRecords flags request).length ++
    .answer exchange outcome ::
    turns exchange (Exchange.outcomeRecords flags treatment outcome).length

/-- A call in which nothing else happens does what the hook does. -/
theorem run_call {relay : Relay} (hSound : Relay.Sound outputs relay) {caller : Nat}
    (hIdle : relay.callers[caller]? = some none) (hHandle : 0 < relay.handles) (options : Options)
    (record : Bytes) :
    let written := relay.hook.write options record relay.outputs
    ∃ log, relay.run [.call caller options record, .offer caller, .giveUp caller] =
      { relay with hook := written.1, outputs := written.2, log := log } := by
  intro written
  cases hJob : options.job? record with
  | none =>
      refine ⟨relay.log ++ [.called caller options record], ?_⟩
      simp [written, Hook.write, hJob, Relay.step, Relay.call, Relay.note, hIdle, hHandle]
  | some job =>
      cases hAsync : options.isAsync with
      | false =>
          refine ⟨relay.log ++ [.called caller options record], ?_⟩
          simp [written, Hook.write, hJob, hAsync, Relay.step, Relay.call, Relay.note, hIdle,
            hHandle]
      | true =>
          rw [hSound.run_call hIdle hHandle hAsync hJob]
          split
          next hFull =>
            simp only [written, Hook.write, hJob, hAsync, if_true,
              Hook.enqueue_of_le (Nat.le_of_eq hFull.symm)]
            exact ⟨_, rfl⟩
          next hNot =>
            simp only [written, Hook.write, hJob, hAsync, if_true,
              Hook.enqueue_of_lt (Nat.lt_of_le_of_ne hSound.room hNot)]
            exact ⟨_, rfl⟩

theorem isReady_iff : traffic.isReady exchange = true ↔
    traffic.relay.callers[exchange]? = some none ∧ 0 < traffic.relay.handles := by
  rw [isReady, Bool.and_eq_true, beq_iff_eq, decide_eq_true_iff]

theorem step_start (hReady : traffic.isReady exchange = true)
    (hFree : traffic.lanes[exchange]? = some none) (request : Request) (treatment : Treatment) :
    traffic.step (.start exchange request treatment) =
      traffic.setLane exchange (.start request treatment traffic.options) := by
  simp [step, hFree, hReady]

theorem step_write (hReady : traffic.isReady exchange = true)
    (hLane : traffic.lane? exchange = some lane) {record : Bytes} {rest : List Bytes}
    (hTodo : lane.todo = record :: rest) :
    traffic.step (.write exchange) =
      (traffic.moveRelay (.call exchange lane.options record)).setLane exchange
        { lane with todo := rest } := by
  simp [step, hLane, hReady, write, hTodo]

theorem step_answer (hReady : traffic.isReady exchange = true)
    (hLane : traffic.lane? exchange = some lane) (hTodo : lane.todo = [])
    (hNone : lane.outcome = none) (outcome : Except Halt (Url × Arrival)) :
    traffic.step (.answer exchange outcome) = traffic.setLane exchange (lane.answer outcome) := by
  simp [step, hLane, hReady, hTodo, hNone]

/-- Turns in which nothing else happens write what is to be written through the hook. -/
theorem run_turns (hSound : Relay.Sound outputs traffic.relay)
    (hReady : traffic.isReady exchange = true) (hLane : traffic.lane? exchange = some lane) :
    let written := lane.todo.foldl (fun state record => state.1.write lane.options record state.2)
      (traffic.relay.hook, traffic.relay.outputs)
    let after := traffic.run (turns exchange lane.todo.length)
    (after.relay.hook, after.relay.outputs) = written ∧
      Relay.Sound outputs after.relay ∧ after.isReady exchange = true ∧
      after.lane? exchange = some { lane with todo := [] } := by
  obtain ⟨request, treatment, options, outcome, todo⟩ := lane
  induction todo generalizing traffic with
  | nil => exact ⟨rfl, hSound, hReady, hLane⟩
  | cons record rest ih =>
      obtain ⟨hIdle, hHandle⟩ := isReady_iff.mp hReady
      let own : List Relay.Move :=
        [.call exchange options record, .offer exchange, .giveUp exchange]
      let next : Traffic :=
        { traffic with relay := traffic.relay.run own }.setLane exchange
          ⟨request, treatment, options, outcome, rest⟩
      have hTurn : traffic.run (turns exchange (rest.length + 1)) =
          next.run (turns exchange rest.length) := by
        rw [turns, run, List.foldl_cons, step_write hReady hLane rfl]
        rfl
      obtain ⟨log, hOwn⟩ := run_call hSound hIdle hHandle options record
      replace hOwn : next.relay = _ := hOwn
      have hNextReady : next.isReady exchange = true := by
        rw [isReady_iff, hOwn]
        exact ⟨hIdle, hHandle⟩
      have hNextSound : Relay.Sound outputs next.relay := Relay.sound_run hSound own
      have hNextLane := lane?_setLane_self { traffic with relay := traffic.relay.run own }
        (lt_of_lane? hLane) ⟨request, treatment, options, outcome, rest⟩
      obtain ⟨hWritten, hRest⟩ := ih hNextSound hNextReady hNextLane
      rw [List.length_cons, hTurn]
      refine ⟨hWritten.trans ?_, hRest⟩
      rw [hOwn]
      rfl

/-- A traffic stands for a hook of a session. -/
structure StandsFor (traffic : Traffic) (session : Session) (number : Nat) : Prop where
  /-- The hook is the same. -/
  hook : session.hooks[number]? = some traffic.relay.hook
  /-- The outputs are the same. -/
  outputs : session.outputs = traffic.relay.outputs

/-- Records that are dumped one after the other go through the hook one after the other. -/
theorem dumpAll_onHook {session : Session} {number : Nat} {hook : Hook}
    (hHook : session.hooks[number]? = some hook) (options : Options) (records : List Bytes) :
    let written := records.foldl (fun state record => state.1.write options record state.2)
      (hook, session.outputs)
    let after := Exchange.dumpAll (some (number, options)) (fun _ => records) session
    after.hooks[number]? = some written.1 ∧ after.outputs = written.2 := by
  induction records generalizing session hook with
  | nil => exact ⟨hHook, rfl⟩
  | cons record rest ih =>
      have hDump : session.dump number options record =
          { session with
            hooks := session.hooks.set number (hook.write options record session.outputs).1
            outputs := (hook.write options record session.outputs).2 } := by
        rw [Session.dump, Session.onHook, hHook]
      have hNext : (session.dump number options record).hooks[number]? =
          some (hook.write options record session.outputs).1 := by
        rw [hDump]
        exact getElem?_set_of_some hHook _
      have hRest := ih hNext
      rw [hDump] at hRest
      simpa [Exchange.dumpAll, hDump] using hRest

/-- Turns in which nothing else happens dump what is to be written. -/
theorem standsFor_turns {session : Session} {number : Nat} (h : traffic.StandsFor session number)
    (hSound : Relay.Sound outputs traffic.relay) (hReady : traffic.isReady exchange = true)
    (hLane : traffic.lane? exchange = some lane) :
    (traffic.run (turns exchange lane.todo.length)).StandsFor
      (Exchange.dumpAll (some (number, lane.options)) (fun _ => lane.todo) session) number := by
  obtain ⟨hWritten, -⟩ := run_turns hSound hReady hLane
  obtain ⟨hHook, hOutputs⟩ := dumpAll_onHook h.hook lane.options lane.todo
  rw [h.outputs, ← hWritten] at hHook hOutputs
  exact ⟨hHook, hOutputs⟩

/-- An exchange in which nothing else happens is the exchange of a session that reads the same
options. -/
theorem standsFor_run {session : Session} {number : Nat} (h : traffic.StandsFor session number)
    (hSound : Relay.Sound outputs traffic.relay) (hReady : traffic.isReady exchange = true)
    (hFree : traffic.lanes[exchange]? = some none) {handle : Transport.Handle}
    (hPolicy : session.policy? handle.hook = some (number, traffic.options))
    (around : Surroundings) (request : Request) :
    let outcome := (fetch around handle.pool.config.proxy request (session.jar? handle.pool.jar)
      session.contacts).outcome
    let moves := alone exchange request handle.treatment traffic.options.flags outcome
    (traffic.run moves).StandsFor (Exchange.run around handle request session).2 number := by
  intro outcome moves
  let fetched := fetch around handle.pool.config.proxy request (session.jar? handle.pool.jar)
    session.contacts
  -- The request is written.
  let lane : Lane := .start request handle.treatment traffic.options
  let began := traffic.setLane exchange lane
  have hBegan : began.StandsFor session number := ⟨h.hook, h.outputs⟩
  have hLane : began.lane? exchange = some lane :=
    lane?_setLane_self traffic (List.getElem?_eq_some_iff.mp hFree).1 lane
  let asked := began.run (turns exchange lane.todo.length)
  have hAsked : asked.StandsFor _ number := standsFor_turns hBegan hSound hReady hLane
  obtain ⟨-, hSoundThen, hReadyThen, hLaneThen⟩ :
    _ ∧ Relay.Sound outputs asked.relay ∧ asked.isReady exchange = true ∧
      asked.lane? exchange = some { lane with todo := [] } := run_turns hSound hReady hLane
  -- What has come back is written.
  let answered := asked.setLane exchange (lane.answer outcome)
  have hAnswered :
      answered.StandsFor (Exchange.afterFetch (some (number, traffic.options)) session handle.pool
        request fetched) number :=
    ⟨by rw [Exchange.hooks_afterFetch]; exact hAsked.hook,
      by rw [Exchange.outputs_afterFetch]; exact hAsked.outputs⟩
  have hLaneLast : answered.lane? exchange = some (lane.answer outcome) :=
    lane?_setLane_self asked (lt_of_lane? hLaneThen) _
  have hDone := standsFor_turns hAnswered hSoundThen hReadyThen hLaneLast
  have hMoves : traffic.run moves =
      answered.run (turns exchange (lane.answer outcome).todo.length) := by
    have hStart : traffic.step (.start exchange request handle.treatment) = began :=
      step_start hReady hFree request handle.treatment
    have hAnswer : asked.step (.answer exchange outcome) = answered :=
      step_answer hReadyThen hLaneThen rfl rfl outcome
    rw [← hAnswer]
    simp only [moves, alone, run, List.cons_append, List.foldl_cons, List.foldl_append, hStart]
    rfl
  rw [hMoves, Exchange.run, hPolicy, Exchange.perform_eq]
  simp only [Exchange.jar?_dumpAll, Exchange.contacts_dumpAll]
  exact hDone

end Traffic
end Wiretap
