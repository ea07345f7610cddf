import Wiretap.Proofs.Client.Quiet
import Wiretap.Proofs.Exchange.Traffic
import Wiretap.Proofs.Relay.Conservation

/-!
# A client that goes from one hook to the next

A client that is disarmed and armed again has a new hook, with a queue, a worker and a count of its
own.  Requests that still hold the old one go on with it.

* `Fleet` is one client with all the hooks that it has had, its requests and its exchanges, and
  `Fleet.step` lets one thing happen: a call, a request, a record, a step of some worker.
* `Fleet.change_step` says once what a step can do to client and hooks: nothing, a call on the
  client, or one move at one hook.
* A hook shares only the outputs with the others, so it is a `Dump.Relay` that goes its own way
  (`Dump.Relay.IsOwn`).  `Fleet.sound_run` carries this through every run, and
  `Fleet.flush_covers_newest` says what a client that finds itself flushed can rely on.
-/

namespace Wiretap

open Dump

namespace Dump.Relay

/-- One hook is like another but for the outputs. -/
def Beside (relay other : Relay) : Prop := relay = { other with outputs := relay.outputs }

/-- What the outputs are has no part in what a move does to anything else. -/
theorem beside_step {relay other : Relay} (h : relay.Beside other) (move : Move) :
    (relay.step move).Beside (other.step move) := by
  obtain ⟨hook, outputs, callers, isPut, handles, hasStopped, log⟩ := other
  unfold Beside at h ⊢
  rw [h]
  cases move with
  | call caller options record =>
      simp only [step]
      split
      · simp only [call, note, setCall]
        split
        · rfl
        · split <;> rfl
      · rfl
  | offer caller =>
      simp only [step]
      split
      · simp only [offer, note, setCall]
        split <;> rfl
      · rfl
  | giveUp caller =>
      simp only [step]
      split <;> rfl
  | put =>
      simp only [step]
      split <;> rfl
  | release =>
      simp only [step]
      split <;> rfl
  | drop =>
      by_cases hMay : 1 < handles ∨ callers.countP Option.isSome = 0
      · have hDrop (some : Outputs) :
            step ⟨hook, some, callers, isPut, handles, hasStopped, log⟩ .drop = _ := if_pos hMay
        rw [hDrop, hDrop]
      · have hDrop (some : Outputs) :
            step ⟨hook, some, callers, isPut, handles, hasStopped, log⟩ .drop = _ := if_neg hMay
        rw [hDrop, hDrop]
  | _ =>
      simp only [step]
      split <;> rfl

end Dump.Relay

/-- What goes on at a hook besides what its session holds of it. -/
structure Desk where
  /-- The call that each exchange is in the midst of. -/
  callers : List (Option Dump.Call)
  /-- Whether the record in the hands of the worker has been written. -/
  isPut : Bool
  /-- How many handles lead to the hook. -/
  handles : Nat
  /-- Whether the worker has stopped. -/
  hasStopped : Bool
  /-- What has happened, latest last. -/
  log : List Event

/-- A desk at which nothing has happened. -/
def Desk.new (exchanges : Nat) : Desk := ⟨List.replicate exchanges none, false, 1, false, []⟩

/-- A client with its session, the requests that it has made and the exchanges that have started. -/
structure Fleet where
  /-- The client. -/
  client : Client
  /-- The session. -/
  session : Session
  /-- What goes on at each of the hooks. -/
  desks : List Desk
  /-- What each request that has been made keeps of the transport. -/
  requests : List Transport.Handle
  /-- The exchanges that have started, each with the number of the hook that it writes to. -/
  lanes : List (Option (Nat × Lane))

namespace Fleet

/-- A client that has been built, with room for a number of exchanges. -/
def start (exchanges : Nat) (built : Client × Session) : Fleet :=
  ⟨built.1, built.2, List.replicate built.2.hooks.length (.new exchanges), [],
    List.replicate exchanges none⟩

/-- What may happen next. -/
inductive Move where
  /-- A call is made on the client: its options change, or it is disarmed or armed. -/
  | call (c : Client.Call)
  /-- An output is opened. -/
  | sink (label : String) (place : Place) (rule : Rule)
  /-- A request is made, and keeps the hook of the client. -/
  | request
  /-- The exchange of a request starts and reads the options through the hook of the request. -/
  | start (exchange request : Nat) (content : Request)
  /-- An exchange begins to write its next record. -/
  | write (exchange : Nat)
  /-- An exchange whose request has been written gets what comes back. -/
  | answer (exchange : Nat) (outcome : Except Halt (Url × Arrival))
  /-- At one of the hooks a record goes on its way, the worker moves, or a handle is copied or
  dropped. -/
  | relay (hook : Nat) (move : Relay.Move)

section Parts

variable (fleet : Fleet)

/-- A hook with those who write to it and its worker. -/
def relay? (hook : Nat) : Option Relay := do
  let found ← fleet.session.hooks[hook]?
  let desk ← fleet.desks[hook]?
  return ⟨found, fleet.session.outputs, desk.callers, desk.isPut, desk.handles, desk.hasStopped,
    desk.log⟩

/-- Puts what has become of a hook in its place. -/
def setRelay (hook : Nat) (relay : Relay) : Fleet :=
  { fleet with
    session := { fleet.session with
      hooks := fleet.session.hooks.set hook relay.hook
      outputs := relay.outputs }
    desks := fleet.desks.set hook
      ⟨relay.callers, relay.isPut, relay.handles, relay.hasStopped, relay.log⟩ }

/-- One of the hooks moves. -/
def moveRelay (hook : Nat) (move : Relay.Move) : Fleet :=
  match fleet.relay? hook with
  | some relay => fleet.setRelay hook (relay.step move)
  | none => fleet

/-- Takes over what a call has made of client and session.  A hook that is new has a desk of its
own. -/
def adopt (state : Client × Session) : Fleet :=
  { fleet with
    client := state.1
    session := state.2
    desks := fleet.desks ++ List.replicate (state.2.hooks.length - fleet.desks.length)
      (.new fleet.lanes.length) }

/-- The exchange of a number, if it has started. -/
def lane? (exchange : Nat) : Option (Nat × Lane) := (fleet.lanes[exchange]?).join

/-- Replaces an exchange. -/
def setLane (exchange hook : Nat) (lane : Lane) : Fleet :=
  { fleet with lanes := fleet.lanes.set exchange (some (hook, lane)) }

/-- Whether an exchange is not in the midst of a call at a hook and can make one. -/
def isReady (hook exchange : Nat) : Bool :=
  match fleet.relay? hook with
  | some relay => relay.callers[exchange]? == some none && 0 < relay.handles
  | none => false

/-- An exchange starts, if its request has a hook that leads to options. -/
def begin (exchange : Nat) (handle : Transport.Handle) (content : Request) : Fleet :=
  match fleet.session.policy? handle.hook with
  | some (hook, options) => fleet.setLane exchange hook (.start content handle.treatment options)
  | none => fleet

/-- An exchange begins to write its next record, as its own options say. -/
def write (exchange hook : Nat) (lane : Lane) : Fleet :=
  match lane.todo with
  | record :: rest =>
    (fleet.moveRelay hook (.call exchange lane.options record)).setLane exchange hook
      { lane with todo := rest }
  | [] => fleet

/-- Lets something happen.  What cannot happen changes nothing. -/
def step : Move → Fleet
  | .call c => fleet.adopt (fleet.client.call fleet.session c)
  | .sink label place rule =>
    { fleet with
      session := { fleet.session with
        outputs := (fleet.session.outputs.openSink label place rule).1 } }
  | .request => { fleet with requests := fleet.requests ++ [fleet.client.transport.handle] }
  | .start exchange request content =>
    match fleet.lanes[exchange]?, fleet.requests[request]? with
    | some none, some handle => fleet.begin exchange handle content
    | _, _ => fleet
  | .write exchange =>
    match fleet.lane? exchange with
    | some (hook, lane) =>
      if fleet.isReady hook exchange then fleet.write exchange hook lane else fleet
    | none => fleet
  | .answer exchange outcome =>
    match fleet.lane? exchange with
    | some (hook, lane) =>
      if lane.todo.isEmpty && lane.outcome.isNone && fleet.isReady hook exchange then
        fleet.setLane exchange hook (lane.answer outcome)
      else fleet
    | none => fleet
  -- Nobody writes but the exchanges.
  | .relay _ (.call _ _ _) => fleet
  | .relay hook move => fleet.moveRelay hook move

/-- Lets one thing happen after the other. -/
def run (moves : List Move) : Fleet := moves.foldl step fleet

end Parts

/-- What a move can do to client, hooks and desks. -/
inductive Change (fleet : Fleet) : Fleet → Prop where
  /-- Nothing. -/
  | rest {next : Fleet} (hClient : next.client = fleet.client)
      (hHooks : next.session.hooks = fleet.session.hooks) (hDesks : next.desks = fleet.desks) :
      Change fleet next
  /-- A call is made on the client. -/
  | called (c : Client.Call) : Change fleet (fleet.adopt (fleet.client.call fleet.session c))
  /-- One of the hooks moves. -/
  | moved {hook : Nat} {relay : Relay} (move : Relay.Move) {next : Fleet}
      (hRelay : fleet.relay? hook = some relay)
      (hClient : next.client = fleet.client)
      (hSession : next.session = (fleet.setRelay hook (relay.step move)).session)
      (hDesks : next.desks = (fleet.setRelay hook (relay.step move)).desks) : Change fleet next

theorem change_moveRelay (fleet : Fleet) (hook : Nat) (move : Relay.Move) :
    fleet.Change (fleet.moveRelay hook move) := by
  unfold moveRelay
  split
  next relay hRelay => exact .moved move hRelay rfl rfl rfl
  next => exact .rest rfl rfl rfl

theorem change_write (fleet : Fleet) (exchange hook : Nat) (lane : Lane) :
    fleet.Change (fleet.write exchange hook lane) := by
  unfold write
  split
  next record rest _ =>
    unfold moveRelay
    split
    next relay hRelay => exact .moved (.call exchange lane.options record) hRelay rfl rfl rfl
    next => exact .rest rfl rfl rfl
  next => exact .rest rfl rfl rfl

/-- Every move is one of the changes. -/
theorem change_step (fleet : Fleet) (move : Move) : fleet.Change (fleet.step move) := by
  cases move with
  | call c => exact .called c
  | sink label place rule => exact .rest rfl rfl rfl
  | request => exact .rest rfl rfl rfl
  | start exchange request content =>
      rw [step]
      split
      · unfold begin
        split <;> exact .rest rfl rfl rfl
      · exact .rest rfl rfl rfl
  | write exchange =>
      rw [step]
      split
      · split
        · exact fleet.change_write _ _ _
        · exact .rest rfl rfl rfl
      · exact .rest rfl rfl rfl
  | answer exchange outcome =>
      rw [step]
      split
      · split <;> exact .rest rfl rfl rfl
      · exact .rest rfl rfl rfl
  | relay hook move =>
      cases move with
      | call caller options record => exact .rest rfl rfl rfl
      | _ => exact fleet.change_moveRelay hook _

end Fleet

namespace Dump.Relay

/-- Whether a hook has become what it is by moves of its own; the outputs, which it shares with
others, are left out. -/
def IsOwn (relay : Relay) : Prop :=
  ∃ cell callers outputs own, relay.Beside ((start cell callers outputs).run own)

namespace IsOwn

variable {relay : Relay}

/-- Nothing has happened at a new hook. -/
theorem of_new {cell exchanges : Nat} (hHook : relay.hook = .onCell cell)
    (hDesk : ⟨relay.callers, relay.isPut, relay.handles, relay.hasStopped, relay.log⟩ =
      Desk.new exchanges) : relay.IsOwn := by
  obtain ⟨hook, outputs, callers, isPut, handles, hasStopped, log⟩ := relay
  cases hHook
  cases hDesk
  exact ⟨cell, exchanges, outputs, [], rfl⟩

theorem withOutputs (h : relay.IsOwn) (outputs : Outputs) :
    IsOwn { relay with outputs := outputs } := by
  obtain ⟨cell, callers, first, own, hBeside⟩ := h
  refine ⟨cell, callers, first, own, ?_⟩
  rw [Beside] at hBeside ⊢
  rw [hBeside]

theorem step (h : relay.IsOwn) (move : Move) : (relay.step move).IsOwn := by
  obtain ⟨cell, callers, outputs, own, hBeside⟩ := h
  refine ⟨cell, callers, outputs, own ++ [move], ?_⟩
  have hRun : (start cell callers outputs).run (own ++ [move]) =
      ((start cell callers outputs).run own).step move := by
    simp [run]
  rw [hRun]
  exact beside_step hBeside move

/-- The bookkeeping of a hook is right whatever the others do to the outputs. -/
theorem sound (h : relay.IsOwn) :
    ∃ first outputs, Sound first { relay with outputs := outputs } := by
  obtain ⟨cell, callers, first, own, hBeside⟩ := h
  refine ⟨first, ((start cell callers first).run own).outputs, ?_⟩
  rw [hBeside]
  exact sound_run (sound_start cell callers first) own

/-- No accepted record is lost, doubled, or moved. -/
theorem accepted (h : relay.IsOwn) :
    relay.accepted = relay.released ++ relay.hook.inHand.toList ++ relay.hook.queue := by
  obtain ⟨first, outputs, hSound⟩ := h.sound
  exact hSound.accepted

/-- Once nothing is pending, everything that has been accepted has been written. -/
theorem written_of_flushed (h : relay.IsOwn) (hFlushed : relay.hook.isFlushed = true) :
    relay.written = relay.accepted := by
  obtain ⟨first, outputs, hSound⟩ := h.sound
  obtain ⟨hQueue, hHand⟩ := hSound.idle_of_flushed hFlushed
  exact hSound.written_of_idle hQueue hHand

end IsOwn
end Dump.Relay

namespace Fleet

/-- What holds at each moment. -/
structure Sound (fleet : Fleet) : Prop where
  /-- Every hook has a desk. -/
  desks : fleet.desks.length = fleet.session.hooks.length
  /-- Every hook goes its own way. -/
  relays : ∀ hook relay, fleet.relay? hook = some relay → relay.IsOwn
  /-- The client has no hook, or the newest one. -/
  newest : Client.Newest (fleet.client, fleet.session)

section Lookup

variable {fleet : Fleet} {hook : Nat} {relay : Relay}

theorem relay?_eq_some_iff : fleet.relay? hook = some relay ↔
    fleet.session.hooks[hook]? = some relay.hook ∧ relay.outputs = fleet.session.outputs ∧
      fleet.desks[hook]? =
        some ⟨relay.callers, relay.isPut, relay.handles, relay.hasStopped, relay.log⟩ := by
  obtain ⟨found', outputs, callers', isPut', handles', hasStopped', log'⟩ := relay
  unfold relay?
  cases fleet.session.hooks[hook]? with
  | none => simp
  | some found =>
      cases fleet.desks[hook]? with
      | none => simp
      | some desk =>
          obtain ⟨callers, isPut, handles, hasStopped, log⟩ := desk
          simp only [Option.bind_eq_bind, Option.bind_some, Option.pure_def, Option.some.injEq,
            Relay.mk.injEq, Desk.mk.injEq]
          tauto

/-- If hook and desk are those of another fleet, then so is everything but the outputs. -/
theorem relay?_of_eq {next : Fleet} (hHook : next.session.hooks[hook]? = fleet.session.hooks[hook]?)
    (hDesk : next.desks[hook]? = fleet.desks[hook]?) (hRelay : next.relay? hook = some relay) :
    fleet.relay? hook = some { relay with outputs := fleet.session.outputs } := by
  obtain ⟨hFound, -, hThere⟩ := relay?_eq_some_iff.mp hRelay
  exact relay?_eq_some_iff.mpr ⟨hHook ▸ hFound, rfl, hDesk ▸ hThere⟩

end Lookup

section Invariant

variable {fleet next : Fleet}

theorem Sound.exists_relay? (h : fleet.Sound) {hook : Nat}
    (hLt : hook < fleet.session.hooks.length) : ∃ relay, fleet.relay? hook = some relay := by
  have hDesk : hook < fleet.desks.length := h.desks.symm ▸ hLt
  refine ⟨⟨fleet.session.hooks[hook], fleet.session.outputs, fleet.desks[hook].callers,
    fleet.desks[hook].isPut, fleet.desks[hook].handles, fleet.desks[hook].hasStopped,
    fleet.desks[hook].log⟩, relay?_eq_some_iff.mpr ?_⟩
  exact ⟨List.getElem?_eq_getElem hLt, rfl, List.getElem?_eq_getElem hDesk⟩

/-- A hook that has gone its own way and is left alone still has. -/
theorem Sound.isOwn_of_eq (h : fleet.Sound) {hook : Nat} {relay : Relay}
    (hHook : next.session.hooks[hook]? = fleet.session.hooks[hook]?)
    (hDesk : next.desks[hook]? = fleet.desks[hook]?) (hRelay : next.relay? hook = some relay) :
    relay.IsOwn :=
  (h.relays hook _ (relay?_of_eq hHook hDesk hRelay)).withOutputs relay.outputs

theorem sound_called (h : fleet.Sound) (c : Client.Call) :
    (fleet.adopt (fleet.client.call fleet.session c)).Sound := by
  have hQuiet := fleet.client.quiet_call fleet.session c
  obtain ⟨cells, hHooks⟩ := hQuiet.hooks
  have hLength : (fleet.client.call fleet.session c).2.hooks.length =
      fleet.session.hooks.length + cells.length := by
    rw [hHooks, List.length_append, List.length_map]
  refine ⟨?_, fun hook relay hRelay => ?_, hQuiet.newest h.newest⟩
  · have hDesks := h.desks
    simp only [adopt, List.length_append, List.length_replicate, hLength]
    omega
  · rcases Nat.lt_or_ge hook fleet.session.hooks.length with hOld | hNew
    · refine h.isOwn_of_eq ?_ ?_ hRelay
      · show (fleet.client.call fleet.session c).2.hooks[hook]? = _
        rw [hHooks, List.getElem?_append_left hOld]
      · exact List.getElem?_append_left (h.desks.symm ▸ hOld)
    · obtain ⟨hFound, -, hDesk⟩ := relay?_eq_some_iff.mp hRelay
      replace hFound : (fleet.client.call fleet.session c).2.hooks[hook]? = some relay.hook :=
        hFound
      rw [hHooks, List.getElem?_append_right hNew] at hFound
      obtain ⟨cell, -, hCell⟩ := List.mem_map.mp (List.mem_of_getElem? hFound)
      replace hDesk : (fleet.desks ++ List.replicate _ (Desk.new fleet.lanes.length))[hook]? =
        _ := hDesk
      rw [List.getElem?_append_right (h.desks.symm ▸ hNew)] at hDesk
      have hNewDesk := List.eq_of_mem_replicate (List.mem_of_getElem? hDesk)
      exact .of_new hCell.symm hNewDesk

theorem sound_moved (h : fleet.Sound) {hook : Nat} {relay : Relay}
    (hRelay : fleet.relay? hook = some relay) (move : Relay.Move) :
    (fleet.setRelay hook (relay.step move)).Sound := by
  obtain ⟨hFound, -, hDesk⟩ := relay?_eq_some_iff.mp hRelay
  have hLengths : (fleet.session.hooks.set hook (relay.step move).hook).length =
      fleet.session.hooks.length := List.length_set
  refine ⟨?_, fun other found hOther => ?_, fun number hNumber => ?_⟩
  · simp only [setRelay, List.length_set]
    exact h.desks
  · by_cases hEq : hook = other
    · subst hEq
      have hSelf : (fleet.setRelay hook (relay.step move)).relay? hook = some (relay.step move) :=
        relay?_eq_some_iff.mpr
          ⟨getElem?_set_of_some hFound _, rfl, getElem?_set_of_some hDesk _⟩
      rw [hSelf] at hOther
      cases hOther
      exact (h.relays hook relay hRelay).step move
    · exact h.isOwn_of_eq (List.getElem?_set_ne hEq) (List.getElem?_set_ne hEq) hOther
  · exact (h.newest number hNumber).trans hLengths.symm

/-- Every change keeps the invariant. -/
theorem Sound.change (h : fleet.Sound) (hChange : fleet.Change next) : next.Sound := by
  cases hChange with
  | rest hClient hHooks hDesks =>
      refine ⟨?_, fun hook relay hRelay => ?_, fun number hNumber => ?_⟩
      · rw [hDesks, hHooks]
        exact h.desks
      · exact h.isOwn_of_eq (by rw [hHooks]) (by rw [hDesks]) hRelay
      · rw [hClient] at hNumber
        rw [hHooks]
        exact h.newest number hNumber
  | called c => exact sound_called h c
  | moved move hRelay hClient hSession hDesks =>
      have hMoved := sound_moved h hRelay move
      refine ⟨?_, fun hook relay hThere => ?_, fun number hNumber => ?_⟩
      · rw [hDesks, hSession]
        exact hMoved.desks
      · exact hMoved.isOwn_of_eq (by rw [hSession]) (by rw [hDesks]) hThere
      · rw [hClient] at hNumber
        rw [hSession]
        exact hMoved.newest number hNumber

/-- A client that has just been built has at most one hook, at which nothing has happened. -/
theorem sound_start {config : Config} {disk : Disk} {built : Client × Session}
    (h : Client.ofConfig config (.onDisk disk) = .ok built) (exchanges : Nat) :
    (start exchanges built).Sound := by
  obtain ⟨bare, -, hQuiet⟩ := Client.quiet_ofConfig h
  have hUntouched := hQuiet.untouched (Session.untouched_onDisk disk)
  refine ⟨List.length_replicate, fun hook relay hRelay => ?_, Client.newest_ofConfig h⟩
  obtain ⟨hFound, -, hDesk⟩ := relay?_eq_some_iff.mp hRelay
  obtain ⟨cell, hCell⟩ := hUntouched.hooks _ (List.mem_of_getElem? hFound)
  have hNewDesk := List.eq_of_mem_replicate (List.mem_of_getElem? hDesk)
  exact .of_new hCell hNewDesk

/-- Every run keeps the invariant. -/
theorem sound_run (h : fleet.Sound) (moves : List Move) : (fleet.run moves).Sound := by
  induction moves generalizing fleet with
  | nil => exact h
  | cons move rest ih => exact ih (h.change (fleet.change_step move))

end Invariant

/-- A client is built and used: it makes requests, its options change, it is disarmed and armed
again, while exchanges write their records and workers take theirs, in any order.  At each moment
the following holds.

* Of every hook that the client has had, the records that were accepted are those with which the
  worker is done, then the one in its hands, then the queue.  Once nothing is pending there, all of
  them have been written.
* If the client is armed and finds itself flushed, then all records that its hook has accepted have
  been written, whichever request they are from.  This hook is the newest one.
* So there is nothing else to wait for, if the client has had no other hook. -/
theorem flush_covers_newest {config : Config} {disk : Disk} {built : Client × Session}
    (h : Client.ofConfig config (.onDisk disk) = .ok built) (exchanges : Nat)
    (moves : List Move) :
    let fleet := (start exchanges built).run moves
    (∀ hook relay, fleet.relay? hook = some relay →
      relay.accepted = relay.released ++ relay.hook.inHand.toList ++ relay.hook.queue ∧
        (relay.hook.isFlushed = true → relay.written = relay.accepted)) ∧
      (fleet.client.isArmed = true → fleet.client.isFlushed fleet.session = true →
        ∃ hook relay, fleet.client.transport.hook = some hook ∧
          hook + 1 = fleet.session.hooks.length ∧ fleet.relay? hook = some relay ∧
            relay.written = relay.accepted) ∧
      (fleet.session.hooks.length = 1 → fleet.client.isArmed = true →
        fleet.client.isFlushed fleet.session = true →
          ∀ hook relay, fleet.relay? hook = some relay → relay.written = relay.accepted) := by
  intro fleet
  have hSound : fleet.Sound := sound_run (sound_start h exchanges) moves
  have hNewest : fleet.client.isArmed = true → fleet.client.isFlushed fleet.session = true →
      ∃ hook relay, fleet.client.transport.hook = some hook ∧
        hook + 1 = fleet.session.hooks.length ∧ fleet.relay? hook = some relay ∧
          relay.written = relay.accepted := by
    intro hArmed hFlushed
    obtain ⟨hook, hHook⟩ := Option.isSome_iff_exists.mp hArmed
    have hLast : hook + 1 = fleet.session.hooks.length := hSound.newest hook hHook
    obtain ⟨relay, hRelay⟩ := hSound.exists_relay? (show hook < _ by omega)
    obtain ⟨hFound, -, -⟩ := relay?_eq_some_iff.mp hRelay
    rw [Client.isFlushed, hHook] at hFlushed
    simp only [hFound] at hFlushed
    exact ⟨hook, relay, hHook, hLast, hRelay, (hSound.relays hook relay hRelay).written_of_flushed
      hFlushed⟩
  refine ⟨fun hook relay hRelay => ?_, hNewest, fun hOnly hArmed hFlushed hook relay hRelay => ?_⟩
  · have hOwn := hSound.relays hook relay hRelay
    exact ⟨hOwn.accepted, hOwn.written_of_flushed⟩
  · obtain ⟨newest, last, -, hLast, hThere, hWritten⟩ := hNewest hArmed hFlushed
    obtain ⟨hFound, -, -⟩ := relay?_eq_some_iff.mp hRelay
    obtain ⟨hLt, -⟩ := List.getElem?_eq_some_iff.mp hFound
    obtain rfl : hook = newest := by omega
    cases hRelay.symm.trans hThere
    exact hWritten

/-- An armed client whose hook has accepted a record is disarmed and armed again, and another
request goes through the new hook.  The worker there finishes, so the client finds itself flushed;
the record at the old hook still waits. -/
theorem flush_covers_newest_of_replaced :
    let url : Url := ⟨"http", [], none, some (.domain "h"), none, .segments [[]], none, none⟩
    let content : Request := ⟨.get, url, .http11, .empty, none, none⟩
    let moves : List Move := [.call .dumpAsync, .request, .start 0 0 content, .write 0,
      .relay 0 (.offer 0), .call (.dump false), .call (.dump true), .request, .start 1 1 content,
      .write 1, .relay 1 (.offer 1), .relay 1 .take, .relay 1 .put, .relay 1 .release]
    ∃ built, Client.ofConfig .standard (.onDisk (.ofHome [])) = .ok built ∧
      let fleet := (start 2 built).run moves
      fleet.client.isArmed = true ∧ fleet.client.isFlushed fleet.session = true ∧
        (∃ hook relay, fleet.client.transport.hook = some hook ∧
          hook + 1 = fleet.session.hooks.length ∧ fleet.relay? hook = some relay ∧
            relay.written = relay.accepted) ∧
        (fleet.relay? 1).map (fun relay => (relay.accepted.length, relay.written.length)) =
          some (1, 1) := by
  intro url content moves
  have hBuilt := Client.ofConfig_standard (.onDisk (.ofHome []))
  obtain ⟨-, hCovers, -⟩ := flush_covers_newest hBuilt 2 moves
  refine ⟨_, hBuilt, ?_⟩
  -- The run is looked at as a whole from here on, and evaluated where it is asked for.
  generalize hFleet : (start 2 _).run moves = fleet at hCovers ⊢
  have hArmed : fleet.client.isArmed = true := by
    rw [← hFleet]
    decide +kernel
  have hFlushed : fleet.client.isFlushed fleet.session = true := by
    rw [← hFleet]
    decide +kernel
  refine ⟨hArmed, hFlushed, hCovers hArmed hFlushed, ?_⟩
  rw [← hFleet]
  decide +kernel

/-- A hook that has been replaced is not waited for: its record has been accepted and not been
written, and the client finds itself flushed. -/
theorem flush_misses_replaced :
    let url : Url := ⟨"http", [], none, some (.domain "h"), none, .segments [[]], none, none⟩
    let content : Request := ⟨.get, url, .http11, .empty, none, none⟩
    ∃ built, Client.ofConfig .standard (.onDisk (.ofHome [])) = .ok built ∧
      let fleet := (start 1 built).run [.call .dumpAsync, .request, .start 0 0 content, .write 0,
        .relay 0 (.offer 0), .call (.dump false), .call (.dump true)]
      fleet.client.isArmed = true ∧ fleet.client.isFlushed fleet.session = true ∧
        ¬ ∀ hook relay, fleet.relay? hook = some relay → relay.written = relay.accepted := by
  intro url content
  refine ⟨_, Client.ofConfig_standard (.onDisk (.ofHome [])), ?_⟩
  intro fleet
  refine ⟨by decide +kernel, by decide +kernel, fun hAll => ?_⟩
  have hLengths : (fleet.relay? 0).map
      (fun relay => (relay.accepted.length, relay.written.length)) = some (1, 0) := by
    decide +kernel
  obtain ⟨relay, hRelay, hPair⟩ := Option.map_eq_some_iff.mp hLengths
  rw [hAll 0 relay hRelay] at hPair
  injection hPair with hAccepted hWritten
  omega

end Fleet
end Wiretap
