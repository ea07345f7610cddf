import Mathlib.Data.List.Induction
import Wiretap.Proofs.Exchange.Records
import Wiretap.Proofs.Relay.Basic

/-!
# Exchanges side by side

Several exchanges go through one hook at the same time.  Each reads the dump options once, at
its start, and writes its records one after the other; between any two of them the other
exchanges may write theirs, the options may be changed, and the worker may take its moves.

* `Lane` is an exchange under way, and `Traffic` is a hook with its exchanges and the cell
  with the options.
* `Traffic.Move` is what may happen next; `Traffic.step` lets it happen.
* `Traffic.Change` lists what a move can do.
* `Traffic.lane_run` says that the options of an exchange are those that were in the cell when it
  started.
* `Traffic.Kept` says which records an exchange has begun to write; `Traffic.kept_run` says that
  it always holds.
-/

namespace Wiretap

open Dump

/-- An exchange under way. -/
structure Lane where
  /-- The request. -/
  request : Request
  /-- How the response body is treated. -/
  treatment : Treatment
  /-- The dump options that were read at the start. -/
  options : Options
  /-- What came back, as soon as it has. -/
  outcome : Option (Except Halt (Url × Arrival))
  /-- The records that are still to be written, first one first. -/
  todo : List Bytes

namespace Lane

/-- An exchange that has read its options: its request is to be written. -/
def start (request : Request) (treatment : Treatment) (options : Options) : Lane :=
  ⟨request, treatment, options, none, Exchange.requestRecords options.flags request⟩

/-- Takes in what came back: this is to be written next. -/
def answer (lane : Lane) (outcome : Except Halt (Url × Arrival)) : Lane :=
  { lane with
    outcome := some outcome
    todo := Exchange.outcomeRecords lane.options.flags lane.treatment outcome }

/-- What an exchange keeps from its start to its end: the request, how the body is treated, and the
options. -/
def origin (lane : Lane) : Request × Treatment × Options :=
  (lane.request, lane.treatment, lane.options)

/-- The records of what came back, as soon as it has. -/
def answerRecords (lane : Lane) : List Bytes :=
  match lane.outcome with
  | some outcome => Exchange.outcomeRecords lane.options.flags lane.treatment outcome
  | none => []

/-- The records of the exchange in their order: the request first. -/
def records (lane : Lane) : List Bytes :=
  Exchange.requestRecords lane.options.flags lane.request ++ lane.answerRecords

end Lane

/-- A hook with the exchanges that go through it and the options that it reads. -/
structure Traffic where
  /-- The hook with its worker; each exchange is one of its callers. -/
  relay : Relay
  /-- The options in the cell. -/
  options : Options
  /-- The exchanges that have started. -/
  lanes : List (Option Lane)

namespace Traffic

/-- A hook through which nothing has gone yet, with room for a number of exchanges. -/
def start (cell exchanges : Nat) (options : Options) (outputs : Outputs) : Traffic :=
  ⟨.start cell exchanges outputs, options, List.replicate exchanges none⟩

/-- What may happen next. -/
inductive Move where
  /-- An exchange starts and reads the options. -/
  | start (exchange : Nat) (request : Request) (treatment : Treatment)
  /-- An exchange begins to write its next record. -/
  | write (exchange : Nat)
  /-- An exchange whose request has been written gets what comes back. -/
  | answer (exchange : Nat) (outcome : Except Halt (Url × Arrival))
  /-- The options in the cell are changed. -/
  | change (change : Options → Options)
  /-- A record goes on its way, the worker moves, or a handle is copied or dropped. -/
  | relay (move : Relay.Move)

/-- The exchange of a number, if it has started. -/
def lane? (traffic : Traffic) (exchange : Nat) : Option Lane := (traffic.lanes[exchange]?).join

/-- Whether an exchange is not in the midst of a call and can make one. -/
def isReady (traffic : Traffic) (exchange : Nat) : Bool :=
  traffic.relay.callers[exchange]? == some none && 0 < traffic.relay.handles

/-- Replaces an exchange. -/
def setLane (traffic : Traffic) (exchange : Nat) (lane : Lane) : Traffic :=
  { traffic with lanes := traffic.lanes.set exchange (some lane) }

/-- The relay moves. -/
def moveRelay (traffic : Traffic) (move : Relay.Move) : Traffic :=
  { traffic with relay := traffic.relay.step move }

/-- An exchange begins to write its next record, as its own options say. -/
def write (traffic : Traffic) (exchange : Nat) (lane : Lane) : Traffic :=
  match lane.todo with
  | record :: rest =>
    (traffic.moveRelay (.call exchange lane.options record)).setLane exchange
      { lane with todo := rest }
  | [] => traffic

/-- Lets something happen.  What cannot happen changes nothing: an exchange starts once and through
a handle, it makes one call at a time, and what comes back is there after its request has been
written. -/
def step (traffic : Traffic) : Move → Traffic
  | .start exchange request treatment =>
    match traffic.lanes[exchange]? with
    | some none =>
      if traffic.isReady exchange then
        traffic.setLane exchange (.start request treatment traffic.options)
      else traffic
    | _ => traffic
  | .write exchange =>
    match traffic.lane? exchange with
    | some lane => if traffic.isReady exchange then traffic.write exchange lane else traffic
    | none => traffic
  | .answer exchange outcome =>
    match traffic.lane? exchange with
    | some lane =>
      if lane.todo.isEmpty && lane.outcome.isNone && traffic.isReady exchange then
        traffic.setLane exchange (lane.answer outcome)
      else traffic
    | none => traffic
  | .change change => { traffic with options := change traffic.options }
  -- Nobody writes but the exchanges.
  | .relay (.call _ _ _) => traffic
  | .relay move => traffic.moveRelay move

/-- Lets one thing happen after the other. -/
def run (traffic : Traffic) (moves : List Move) : Traffic := moves.foldl step traffic

@[simp]
theorem run_nil (traffic : Traffic) : traffic.run [] = traffic := rfl

theorem run_append_singleton (traffic : Traffic) (moves : List Move) (move : Move) :
    traffic.run (moves ++ [move]) = (traffic.run moves).step move := by
  simp [run]

/-- What a move can do. -/
inductive Change (traffic : Traffic) (move : Move) : Traffic → Prop where
  /-- It cannot happen. -/
  | rest : Change traffic move traffic
  /-- The relay moves, but no exchange begins to write. -/
  | moved (own : Relay.Move) (hCalled : (traffic.relay.step own).called = traffic.relay.called) :
      Change traffic move (traffic.moveRelay own)
  /-- The options in the cell are changed. -/
  | changed (options : Options) : Change traffic move { traffic with options := options }
  /-- An exchange starts. -/
  | started {exchange : Nat} {request : Request} {treatment : Treatment}
      (hMove : move = .start exchange request treatment)
      (hFree : traffic.lanes[exchange]? = some none) :
      Change traffic move
        (traffic.setLane exchange (.start request treatment traffic.options))
  /-- An exchange begins to write a record. -/
  | began {exchange : Nat} {lane : Lane} {record : Bytes} {rest : List Bytes}
      (hLane : traffic.lane? exchange = some lane) (hTodo : lane.todo = record :: rest)
      (hCalled : (traffic.relay.step (.call exchange lane.options record)).called =
        traffic.relay.called ++ [(exchange, lane.options, record)]) :
      Change traffic move
        ((traffic.moveRelay (.call exchange lane.options record)).setLane exchange
          { lane with todo := rest })
  /-- An exchange gets what comes back. -/
  | answered {exchange : Nat} {lane : Lane} (outcome : Except Halt (Url × Arrival))
      (hLane : traffic.lane? exchange = some lane) (hTodo : lane.todo = [])
      (hNone : lane.outcome = none) :
      Change traffic move (traffic.setLane exchange (lane.answer outcome))

section Moves

variable (traffic : Traffic)

theorem called_call (relay : Relay) (caller : Nat) (options : Options) (record : Bytes) :
    (relay.call caller options record).called = relay.called ++ [(caller, options, record)] := by
  unfold Relay.call Relay.called
  dsimp only
  split
  · simp [Relay.note, Event.called?]
  · split <;> simp [Relay.note, Relay.setCall, Event.called?]

/-- A call that can be made is put down as made. -/
theorem called_step_call {exchange : Nat} (hReady : traffic.isReady exchange = true)
    (options : Options) (record : Bytes) :
    (traffic.relay.step (.call exchange options record)).called =
      traffic.relay.called ++ [(exchange, options, record)] := by
  rw [isReady, Bool.and_eq_true, beq_iff_eq, decide_eq_true_iff] at hReady
  rw [Relay.step, if_pos hReady, called_call]

/-- Only a call begins to write. -/
theorem called_step_of_ne (relay : Relay) {move : Relay.Move}
    (hMove : ∀ caller options record, move ≠ .call caller options record) :
    (relay.step move).called = relay.called := by
  unfold Relay.called
  cases move with
  | call caller options record => exact absurd rfl (hMove caller options record)
  | offer caller =>
      simp only [Relay.step, Relay.offer]
      split
      · split <;> simp [Relay.note, Relay.setCall, List.filterMap_cons, Event.called?]
      · rfl
  | giveUp caller =>
      simp only [Relay.step, Relay.giveUp]
      split <;> simp [Relay.note, Relay.setCall, List.filterMap_cons, Event.called?]
  | put =>
      simp only [Relay.step]
      split <;> simp [Relay.note, List.filterMap_cons, Event.called?]
  | release =>
      simp only [Relay.step]
      split <;> simp [Relay.note, List.filterMap_cons, Event.called?]
  | _ =>
      simp only [Relay.step]
      split <;> rfl

/-- Every move is one of the changes. -/
theorem change_step (move : Move) : traffic.Change move (traffic.step move) := by
  cases move with
  | start exchange request treatment =>
      rw [step]
      split
      next hFree =>
        split
        · exact .started rfl hFree
        · exact .rest
      · exact .rest
  | write exchange =>
      rw [step]
      split
      next lane hLane =>
        split
        next hReady =>
          unfold write
          split
          next record rest hTodo =>
            exact .began hLane hTodo (traffic.called_step_call hReady lane.options record)
          · exact .rest
        · exact .rest
      · exact .rest
  | answer exchange outcome =>
      rw [step]
      split
      next lane hLane =>
        split
        next hReady =>
          simp only [Bool.and_eq_true, List.isEmpty_iff, Option.isNone_iff_eq_none] at hReady
          exact .answered outcome hLane hReady.1.1 hReady.1.2
        · exact .rest
      · exact .rest
  | change change => exact .changed _
  | relay move =>
      cases move with
      | call caller options record => exact .rest
      | _ => exact .moved _ (called_step_of_ne _ (by rintro _ _ _ ⟨⟩))

end Moves

section Lanes

variable {traffic next : Traffic} {move : Move}

theorem lane?_setLane_self (traffic : Traffic) {exchange : Nat}
    (h : exchange < traffic.lanes.length) (lane : Lane) :
    (traffic.setLane exchange lane).lane? exchange = some lane := by
  simp [lane?, setLane, h]

theorem lane?_setLane_of_ne (traffic : Traffic) {exchange other : Nat} (h : exchange ≠ other)
    (lane : Lane) : (traffic.setLane exchange lane).lane? other = traffic.lane? other := by
  simp [lane?, setLane, List.getElem?_set_ne h]

theorem lt_of_lane? {exchange : Nat} {lane : Lane} (h : traffic.lane? exchange = some lane) :
    exchange < traffic.lanes.length := by
  rcases Nat.lt_or_ge exchange traffic.lanes.length with hLt | hGe
  · exact hLt
  · simp [lane?, List.getElem?_eq_none hGe] at h

/-- An exchange is the one that was put there last, or it has been there. -/
theorem eq_or_lane?_of_setLane {traffic : Traffic} {number exchange : Nat} {new lane : Lane}
    (hNumber : number < traffic.lanes.length)
    (hLane : (traffic.setLane number new).lane? exchange = some lane) :
    (number = exchange ∧ new = lane) ∨ traffic.lane? exchange = some lane := by
  by_cases hEq : number = exchange
  · subst hEq
    rw [lane?_setLane_self traffic hNumber] at hLane
    exact .inl ⟨rfl, Option.some.inj hLane⟩
  · rw [lane?_setLane_of_ne traffic hEq] at hLane
    exact .inr hLane

/-- What a change does to one exchange: it may start, and then it reads the options in the cell. -/
theorem lane_change (hChange : traffic.Change move next) {exchange : Nat} {lane : Lane}
    (hLane : next.lane? exchange = some lane) :
    (∃ old, traffic.lane? exchange = some old ∧ old.origin = lane.origin) ∨
      move = .start exchange lane.request lane.treatment ∧ traffic.lane? exchange = none ∧
        lane.options = traffic.options := by
  cases hChange with
  | rest => exact .inl ⟨lane, hLane, rfl⟩
  | moved own hCalled => exact .inl ⟨lane, hLane, rfl⟩
  | changed options => exact .inl ⟨lane, hLane, rfl⟩
  | started hMove hFree =>
      obtain ⟨rfl, rfl⟩ | hOld :=
        eq_or_lane?_of_setLane (List.getElem?_eq_some_iff.1 hFree).1 hLane
      · exact .inr ⟨hMove, by simp [lane?, hFree], rfl⟩
      · exact .inl ⟨lane, hOld, rfl⟩
  | @began number old record rest hThere hTodo hCalled =>
      obtain ⟨rfl, rfl⟩ | hOld := eq_or_lane?_of_setLane (lt_of_lane? hThere) hLane
      · exact .inl ⟨old, hThere, rfl⟩
      · exact .inl ⟨lane, hOld, rfl⟩
  | @answered number old outcome hThere hTodo hNone =>
      obtain ⟨rfl, rfl⟩ | hOld := eq_or_lane?_of_setLane (lt_of_lane? hThere) hLane
      · exact .inl ⟨old, hThere, rfl⟩
      · exact .inl ⟨lane, hOld, rfl⟩

/-- The options of an exchange are those that were in the cell when it started. -/
theorem lane_run (hNew : ∀ exchange, traffic.lane? exchange = none) (moves : List Move)
    {exchange : Nat} {lane : Lane} (hLane : (traffic.run moves).lane? exchange = some lane) :
    ∃ earlier later, moves = earlier ++ .start exchange lane.request lane.treatment :: later ∧
      (traffic.run earlier).lane? exchange = none ∧
      lane.options = (traffic.run earlier).options := by
  induction moves using List.reverseRecOn generalizing lane with
  | nil => simp [hNew] at hLane
  | append_singleton moves move ih =>
      rw [run_append_singleton] at hLane
      rcases lane_change ((traffic.run moves).change_step move) hLane with
        ⟨old, hOld, hSame⟩ | ⟨rfl, hNone, hOptions⟩
      · obtain ⟨earlier, later, hMoves, hNone, hOptions⟩ := ih hOld
        simp only [Lane.origin, Prod.mk.injEq] at hSame
        obtain ⟨hRequest, hTreatment, hKept⟩ := hSame
        refine ⟨earlier, later ++ [move], ?_, hNone, hKept ▸ hOptions⟩
        rw [hMoves, hRequest, hTreatment, List.append_assoc, List.cons_append]
      · exact ⟨moves, [], rfl, hNone, hOptions⟩

end Lanes

/-- The calls of an exchange: the options and the records. -/
def callsOf (traffic : Traffic) (exchange : Nat) : List (Options × Bytes) :=
  traffic.relay.called.filterMap fun call => if call.1 = exchange then some call.2 else none

/-- An exchange that has started has begun to write those of its records that come before what is
still to be written, and each as its options say. -/
def Kept (traffic : Traffic) (exchange : Nat) : Prop :=
  match traffic.lane? exchange with
  | some lane => ∃ begun, begun ++ lane.todo = lane.records ∧
      traffic.callsOf exchange = begun.map (lane.options, ·)
  | none => traffic.callsOf exchange = []

section Kept

variable {traffic next : Traffic} {move : Move} {exchange : Nat} {lane : Lane}

theorem kept_of_some (hLane : traffic.lane? exchange = some lane) :
    traffic.Kept exchange ↔ ∃ begun, begun ++ lane.todo = lane.records ∧
      traffic.callsOf exchange = begun.map (lane.options, ·) := by
  rw [Kept, hLane]

theorem kept_of_none (hLane : traffic.lane? exchange = none) :
    traffic.Kept exchange ↔ traffic.callsOf exchange = [] := by
  rw [Kept, hLane]

/-- To an exchange that is not touched, and does not write, nothing happens. -/
theorem Kept.congr (h : traffic.Kept exchange)
    (hLane : next.lane? exchange = traffic.lane? exchange)
    (hCalls : next.callsOf exchange = traffic.callsOf exchange) : next.Kept exchange := by
  unfold Kept at h ⊢
  rwa [hLane, hCalls]

/-- Every change keeps to the order of the records. -/
theorem kept_change (hChange : traffic.Change move next) (h : traffic.Kept exchange) :
    next.Kept exchange := by
  cases hChange with
  | rest => exact h
  | moved own hCalled => exact h.congr rfl (by simp only [callsOf, moveRelay, hCalled])
  | changed options => exact h.congr rfl rfl
  | @started number request treatment hMove hFree =>
      by_cases hEq : number = exchange
      · subst hEq
        have hNone : traffic.lane? number = none := by simp [lane?, hFree]
        rw [kept_of_some (lane?_setLane_self _ (List.getElem?_eq_some_iff.1 hFree).1 _)]
        refine ⟨[], ?_, (kept_of_none hNone).1 h⟩
        simp [Lane.start, Lane.records, Lane.answerRecords]
      · exact h.congr (lane?_setLane_of_ne _ hEq _) rfl
  | @began number old record rest hOld hTodo hCalled =>
      by_cases hEq : number = exchange
      · subst hEq
        obtain ⟨begun, hBegun, hCalls⟩ := (kept_of_some hOld).1 h
        refine (kept_of_some (lane?_setLane_self (traffic.moveRelay _)
            (lt_of_lane? hOld) _)).2 ⟨begun ++ [record], ?_, ?_⟩
        · rw [hTodo] at hBegun
          rw [List.append_assoc]
          exact hBegun
        · unfold callsOf at hCalls ⊢
          simp [setLane, moveRelay, hCalled, hCalls]
      · refine h.congr (lane?_setLane_of_ne _ hEq _) ?_
        simp [callsOf, setLane, moveRelay, hCalled, hEq]
  | @answered number old outcome hOld hTodo hNone =>
      by_cases hEq : number = exchange
      · subst hEq
        obtain ⟨begun, hBegun, hCalls⟩ := (kept_of_some hOld).1 h
        refine (kept_of_some (lane?_setLane_self _ (lt_of_lane? hOld) _)).2 ⟨begun, ?_, hCalls⟩
        rw [hTodo, List.append_nil] at hBegun
        simp [hBegun, Lane.records, Lane.answer, Lane.answerRecords, hNone]
      · exact h.congr (lane?_setLane_of_ne _ hEq _) rfl

theorem kept_run (h : traffic.Kept exchange) (moves : List Move) :
    (traffic.run moves).Kept exchange := by
  induction moves using List.reverseRecOn with
  | nil => exact h
  | append_singleton moves move ih =>
      rw [run_append_singleton]
      exact kept_change ((traffic.run moves).change_step move) ih

end Kept

end Traffic
end Wiretap
