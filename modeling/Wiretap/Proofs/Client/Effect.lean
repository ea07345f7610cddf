import Wiretap.Proofs.Client.Likeness
import Wiretap.Proofs.Client.Writes

/-!
# What a call sets

A call puts values in the place of others and reads nothing of what it changes: it
writes some headers, sets at most one value of each other kind, and gives an order to
dump control.  So two calls come to the same in either order if what they set is apart.

* `Client.Effect` is what a call sets, and `Effect.apply` sets it.
* `Client.Call.effect` is the effect of a call, and `Client.state_call` says that a call
  has this effect and no other.  `Client.headers_callAll` follows for headers.
* `Effect.Apart` compares two effects; `Effect.apply_comm` says what comes of two that are
  apart, and `Effect.apply_apply` what comes of one effect twice.
-/

namespace Wiretap

/-- Of two settings at most one is made, unless they are the same. -/
def Agree {α : Type} (first second : Option α) : Prop :=
  first = none ∨ second = none ∨ first = second

section Agree

variable {α : Type} {first second : Option α}

theorem Agree.getD_comm (h : Agree first second) (value : α) :
    second.getD (first.getD value) = first.getD (second.getD value) := by
  rcases h with rfl | rfl | rfl
  · rfl
  · rfl
  · rfl

theorem agree_of_not_both (h : first.isSome = true → second.isSome = true → False) :
    Agree first second := by
  cases first with
  | none => exact Or.inl rfl
  | some value =>
      cases second with
      | none => exact Or.inr (Or.inl rfl)
      | some other => exact (h rfl rfl).elim

theorem getD_getD (setting : Option α) (value : α) :
    setting.getD (setting.getD value) = setting.getD value := by
  cases setting <;> rfl

end Agree

namespace Treatment

/-- What a change makes of the decoding of text, if it changes that. -/
def Change.decodes? : Change → Option Bool
  | .decode => some true
  | .keepRaw => some false
  | _ => none

/-- What a change makes of the dropping of bodies, if it changes that. -/
def Change.discards? : Change → Option Bool
  | .discard => some true
  | .keep => some false
  | _ => none

theorem apply_eq (treatment : Treatment) (change : Change) :
    treatment.apply change =
      ⟨change.decodes?.getD treatment.autoDecode, change.discards?.getD treatment.discardBody⟩ := by
  cases change <;> rfl

/-- Of changes of one flag the last one counts. -/
theorem applyAll_eq (treatment : Treatment) (changes : List Change) :
    treatment.applyAll changes =
      ⟨(changes.filterMap Change.decodes?).getLast?.getD treatment.autoDecode,
        (changes.filterMap Change.discards?).getLast?.getD treatment.discardBody⟩ := by
  induction changes using List.reverseRecOn with
  | nil => rfl
  | append_singleton front change ih =>
      rw [applyAll_append, ih, List.filterMap_append, List.filterMap_append]
      show apply _ change = _
      rw [apply_eq]
      cases change <;> simp [Change.decodes?, Change.discards?]

end Treatment

namespace Transport

/-- A transport that follows another policy on proxies, if there is one. -/
def rerouted (transport : Transport) : Option Config.Proxy → Transport
  | none => transport
  | some proxy =>
    let config := { transport.config with proxy := proxy }
    { transport with
      pool := ⟨config, transport.timeouts, transport.jar⟩
      config := config }

theorem rerouted_treat (transport : Transport) (changes : List Treatment.Change)
    (proxy : Option Config.Proxy) :
    (transport.treat changes).rerouted proxy = (transport.rerouted proxy).treat changes := by
  cases proxy <;> rfl

theorem rerouted_comm (transport : Transport) {first second : Option Config.Proxy}
    (h : Agree first second) :
    (transport.rerouted first).rerouted second = (transport.rerouted second).rerouted first := by
  rcases h with rfl | rfl | rfl
  · rfl
  · rfl
  · rfl

theorem rerouted_rerouted (transport : Transport) (proxy : Option Config.Proxy) :
    (transport.rerouted proxy).rerouted proxy = transport.rerouted proxy := by
  cases proxy <;> rfl

end Transport

namespace Client

namespace Order

/-- The parts that are to be captured after an order, if it says so. -/
def flags? : Order → Option Dump.Flags
  | .replace next => some next.flags
  | .preset parts => some parts.flags
  | _ => none

/-- Whether records are to be written in the background after an order, if it says so. -/
def isAsync? : Order → Option Bool
  | .replace next => some next.isAsync
  | .background => some true
  | _ => none

/-- Where records are to go after an order, if it says so. -/
def output? : Order → Option (Option Dump.Output)
  | .replace next => some next.output
  | .output place => some (some place)
  | _ => none

/-- Whether there are options after an order in any case. -/
def fills : Order → Bool
  | .nothing => false
  | .disarm => false
  | _ => true

theorem fill_eq (order : Order) (options : Option Dump.Options) :
    order.fill options =
      if order.fills then
        some ⟨order.flags?.getD (options.getD .standard).flags,
          order.isAsync?.getD (options.getD .standard).isAsync,
          order.output?.getD (options.getD .standard).output⟩
      else options := by
  cases order <;> rfl

variable {first second : Order}

theorem fill_of_not_fills {order : Order} (h : order.fills = false)
    (options : Option Dump.Options) : order.fill options = options := by
  rw [fill_eq, h]
  rfl

theorem fill_comm (hFlags : Agree first.flags? second.flags?)
    (hAsync : Agree first.isAsync? second.isAsync?)
    (hOutput : Agree first.output? second.output?) (options : Option Dump.Options) :
    second.fill (first.fill options) = first.fill (second.fill options) := by
  cases hFirst : first.fills with
  | false => rw [fill_of_not_fills hFirst, fill_of_not_fills hFirst]
  | true =>
      cases hSecond : second.fills with
      | false => rw [fill_of_not_fills hSecond, fill_of_not_fills hSecond]
      | true =>
          simp only [fill_eq, hFirst, hSecond, if_true, Option.getD_some]
          rw [hFlags.getD_comm, hAsync.getD_comm, hOutput.getD_comm]

theorem fill_fill (order : Order) (options : Option Dump.Options) :
    order.fill (order.fill options) = order.fill options := by
  cases hFills : order.fills with
  | false => rw [fill_of_not_fills hFills, fill_of_not_fills hFills]
  | true => simp only [fill_eq, hFills, if_true, Option.getD_some, getD_getD]

end Order

/-- What a call sets. -/
structure Effect where
  /-- The headers that it writes, in order. -/
  writes : List (String × String)
  /-- The bound on time. -/
  timeout : Option (Option Duration)
  /-- The changes of how bodies are treated, in order. -/
  changes : List Treatment.Change
  /-- The policy on proxies. -/
  proxy : Option Config.Proxy
  /-- The logger. -/
  logger : Option Logger
  /-- What it orders of dump control. -/
  order : Order

namespace Effect

/-- What an effect makes of a client, but for dump control. -/
def reshape (effect : Effect) (client : Client) : Client :=
  { client with
    transport := (client.transport.rerouted effect.proxy).treat effect.changes
    headers := settleOnto client.headers effect.writes
    timeout := effect.timeout.getD client.timeout
    logger := effect.logger.getD client.logger }

/-- What an effect makes of a state. -/
def apply (effect : Effect) (state : State) : State :=
  ⟨effect.reshape state.bare, effect.order.arms?.getD state.isArmed,
    effect.order.fill state.options⟩

end Effect

namespace Call

/-- The bound on time that a call sets. -/
def timeout? : Call → Option (Option Duration)
  | .timeout limit => some limit.bound?
  | _ => none

/-- The changes that a call makes of how bodies are treated, in order. -/
def changes : Call → List Treatment.Change
  | .treat list => list
  | .debugMode => [.decode]
  | .testMode => [.decode, .discard]
  | _ => []

/-- The policy on proxies that a call sets; one of no use is not set. -/
def proxy? : Call → Option Config.Proxy
  | .proxy policy => if policy.isUsable then some policy else none
  | _ => none

/-- The logger that a call sets. -/
def logger? : Call → Option Logger
  | .logger next => next
  | .debugMode => some (.writer .stdout)
  | .testMode => some (.writer .stdout)
  | _ => none

/-- What a call sets. -/
def effect (session : Session) (c : Call) : Effect :=
  ⟨c.writes, c.timeout?, c.changes, c.proxy?, c.logger?, c.order session⟩

end Call

-- Dump control lies outside of `bare`, so what arms or edits options comes down to `bare_arm`.
theorem bare_eq_reshape (client : Client) (session : Session) (c : Call) :
    (client.call session c).1.bare = (c.effect session).reshape client.bare := by
  cases c with
  | header name value => rfl
  | headers list =>
      show (client.setHeaders list).bare = _
      rw [client.setHeaders_eq list]
      rfl
  | userAgent value => rfl
  | timeout limit => rfl
  | proxy proxy =>
      show (client.setProxy proxy session).1.bare = _
      cases hUsable : proxy.isUsable with
      | true =>
          rw [client.setProxy_of_isUsable session hUsable]
          simp only [Effect.reshape, Call.effect, Call.proxy?, hUsable]
          rfl
      | false =>
          rw [client.setProxy_of_not_isUsable session hUsable]
          simp only [Effect.reshape, Call.effect, Call.proxy?, hUsable]
          rfl
  | treat changes => rfl
  | logger logger => rfl
  | dump enable =>
      cases enable with
      | true => exact client.bare_arm session
      | false => rfl
  | options options => rfl
  | preset preset => exact client.bare_arm _
  | dumpTo output => exact client.bare_arm _
  | dumpToFile path => exact client.bare_dumpToFile session path
  | dumpAsync => exact client.bare_arm _
  | debugMode => exact client.bare_debugMode session
  | testMode =>
      show (client.debugMode session).1.bare.treat [.discard] = _
      rw [client.bare_debugMode session]
      rfl

/-- A call changes the headers by what it writes. -/
theorem headers_call (client : Client) (session : Session) (c : Call) :
    (client.call session c).1.headers = settleOnto client.headers c.writes :=
  congrArg Client.headers (client.bare_eq_reshape session c)

/-- The headers of a client are those of everything that has been written, one after the other. -/
theorem headers_callAll (client : Client) (session : Session) {writes : List (String × String)}
    (h : client.headers = settle writes) (calls : List Call) :
    (client.callAll session calls).1.headers = settle (writes ++ calls.flatMap Call.writes) := by
  induction calls generalizing client session writes with
  | nil => simpa [callAll] using h
  | cons c rest ih =>
      have hCalled : (client.call session c).1.headers = settle (writes ++ c.writes) := by
        rw [client.headers_call session c, h, settleOnto_settle]
      rw [callAll_cons, ih _ _ hCalled, List.flatMap_cons, List.append_assoc]

/-- A call has its effect on the state of a client, and no other. -/
theorem state_call {client : Client} {session : Session} (h : client.Fits session) (c : Call) :
    (client.call session c).1.state (client.call session c).2 =
      (c.effect session).apply (client.state session) := by
  have hObeys := obeys_call h c
  have hBare := client.bare_eq_reshape session c
  rw [state, hBare, hObeys.isArmed, hObeys.options]
  rfl

/-- A state with its headers in order, as a request gets them. -/
def State.sorted (state : State) : State :=
  { state with bare := state.bare.dressed state.bare.sortedHeaders }

namespace Effect

/-- Two effects are apart if they write different headers and agree in everything else. -/
structure Apart (first second : Effect) : Prop where
  writes : ∀ header ∈ first.writes, ∀ other ∈ second.writes, headerKey header ≠ headerKey other
  timeout : Agree first.timeout second.timeout
  decode : Agree (first.changes.filterMap Treatment.Change.decodes?).getLast?
    (second.changes.filterMap Treatment.Change.decodes?).getLast?
  discard : Agree (first.changes.filterMap Treatment.Change.discards?).getLast?
    (second.changes.filterMap Treatment.Change.discards?).getLast?
  proxy : Agree first.proxy second.proxy
  logger : Agree first.logger second.logger
  flags : Agree first.order.flags? second.order.flags?
  isAsync : Agree first.order.isAsync? second.order.isAsync?
  output : Agree first.order.output? second.order.output?
  arming : Agree first.order.arms? second.order.arms?

variable {first second : Effect}

theorem treat_comm (h : first.Apart second) (transport : Transport) :
    (transport.treat first.changes).treat second.changes =
      (transport.treat second.changes).treat first.changes := by
  have hTreatment :
      (transport.treatment.applyAll first.changes).applyAll second.changes =
        (transport.treatment.applyAll second.changes).applyAll first.changes := by
    simp only [Treatment.applyAll_eq]
    rw [h.decode.getD_comm, h.discard.getD_comm]
  exact congrArg (fun treatment => { transport with treatment := treatment }) hTreatment

theorem transport_comm (h : first.Apart second) (client : Client) :
    (second.reshape (first.reshape client)).transport =
      (first.reshape (second.reshape client)).transport := by
  show (((client.transport.rerouted first.proxy).treat first.changes).rerouted
      second.proxy).treat second.changes =
    (((client.transport.rerouted second.proxy).treat second.changes).rerouted
      first.proxy).treat first.changes
  rw [Transport.rerouted_treat, Transport.rerouted_treat, treat_comm h,
    Transport.rerouted_comm _ h.proxy]

/-- Effects that are apart come to the same in either order. -/
theorem apply_comm (h : first.Apart second) (state : State) :
    (second.apply (first.apply state)).sorted = (first.apply (second.apply state)).sorted := by
  -- Field by field; the headers come out in another order, which sorting takes away.
  have hTransport := transport_comm h state.bare
  have hHeaders := mergeSort_eq_of_perm
    (settleOnto_perm state.bare.headers first.writes second.writes h.writes)
  have hLogger := h.logger.getD_comm state.bare.logger
  have hTimeout := h.timeout.getD_comm state.bare.timeout
  have hArmed := h.arming.getD_comm state.isArmed
  have hOptions := Order.fill_comm h.flags h.isAsync h.output state.options
  have hBare : (second.apply (first.apply state)).sorted.bare =
      (first.apply (second.apply state)).sorted.bare := by
    show Client.mk (second.reshape (first.reshape state.bare)).transport state.bare.cell
        ((settleOnto (settleOnto state.bare.headers first.writes) second.writes).mergeSort
          headerLe)
        (second.logger.getD (first.logger.getD state.bare.logger))
        (second.timeout.getD (first.timeout.getD state.bare.timeout)) = _
    rw [hTransport, hHeaders, hLogger, hTimeout]
    rfl
  show State.mk _ (second.order.arms?.getD (first.order.arms?.getD state.isArmed))
    (second.order.fill (first.order.fill state.options)) = _
  rw [hArmed, hOptions]
  exact congrArg (fun bare => State.mk bare _ _) hBare

/-- What has been set is set again to what it is. -/
theorem reshape_reshape (effect : Effect) (client : Client) :
    effect.reshape (effect.reshape client) = effect.reshape client := by
  have hChanges (transport : Transport) :
      (transport.treat effect.changes).treat effect.changes = transport.treat effect.changes := by
    have hTreatment (treatment : Treatment) :
        (treatment.applyAll effect.changes).applyAll effect.changes =
          treatment.applyAll effect.changes := by
      simp only [Treatment.applyAll_eq, getD_getD]
    exact congrArg (fun treatment => { transport with treatment := treatment })
      (hTreatment transport.treatment)
  simp only [reshape, Transport.rerouted_treat, Transport.rerouted_rerouted, hChanges,
    settleOnto_settleOnto, getD_getD]

theorem apply_apply (effect : Effect) (state : State) :
    effect.apply (effect.apply state) = effect.apply state := by
  simp only [apply, reshape_reshape, getD_getD, Order.fill_fill]

end Effect

end Client
end Wiretap
