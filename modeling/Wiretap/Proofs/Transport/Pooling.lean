import Wiretap.Proofs.Client.Fitting

/-!
# Pools and settings

A transport has a pool next to the settings that the pool was built from, and nothing
in its type says that they agree.  They do, for a transport that has been built and
for all that come from it by copying, whatever is done with them.

* `Transport.Family` are the transports that come from one, with their session, and
  `Transport.Family.step` does something with one of them.
* `Transport.Matches` is the invariant; `Transport.Family.sound_step` says that every
  step keeps it, and `Transport.Family.sound_run` that every run does.
* `Transport.pool_matches_settings` says what follows: a copy always has a pool of its
  own.  This needs that a pool is settled by what it is built from, and not which
  settings are of use.
-/

namespace Wiretap
namespace Transport

/-- What can be done with a transport. -/
inductive Move where
  /-- Changes the policy on proxies. -/
  | setProxy (proxy : Config.Proxy)
  /-- Attaches a hook that reads a cell. -/
  | attach (cell : Nat)
  /-- Takes the hook off. -/
  | detach
  /-- Changes how response bodies are treated. -/
  | treat (changes : List Treatment.Change)
  /-- Copies the transport, if a pool can be built. -/
  | tryCopy
  /-- Copies the transport with whatever pool there is. -/
  | copy

/-- Transports in one session. -/
structure Family where
  /-- The session. -/
  session : Session
  /-- The transports, the latest last. -/
  members : List Transport

namespace Family

/-- Does something with one of the transports; what fails changes nothing. -/
def move (family : Family) (number : Nat) (transport : Transport) : Move → Family
  | .setProxy proxy =>
    match transport.setProxy proxy with
    | .ok next => { family with members := family.members.set number next }
    | .error _ => family
  | .attach cell =>
    let (next, session, _) := transport.attach cell family.session
    { session := session, members := family.members.set number next }
  | .detach => { family with members := family.members.set number transport.detach }
  | .treat changes =>
    { family with members := family.members.set number (transport.treat changes) }
  | .tryCopy =>
    match transport.copy? with
    | .ok next => { family with members := family.members ++ [next] }
    | .error _ => family
  | .copy =>
    let (next, session) := transport.copy family.session
    { session := session, members := family.members ++ [next] }

/-- Does something with the transport of a number, if there is one. -/
def step (family : Family) (action : Nat × Move) : Family :=
  match family.members[action.1]? with
  | some transport => family.move action.1 transport action.2
  | none => family

/-- Does one thing after the other. -/
def run (family : Family) (actions : List (Nat × Move)) : Family := actions.foldl step family

end Family

/-- A transport matches another that it comes from: its pool is the one that its settings give,
and its settings are those of the other, up to the policy on proxies. -/
structure Matches (first transport : Transport) : Prop where
  pool : Pool.build? transport.config transport.timeouts transport.jar = .ok transport.pool
  config : transport.config = { first.config with proxy := transport.config.proxy }
  timeouts : transport.timeouts = first.timeouts
  jar : transport.jar = first.jar

section Matching

variable {first transport next : Transport}

theorem setProxy_of_build {proxy : Config.Proxy} {pool : Pool}
    (h : Pool.build? { transport.config with proxy := proxy } transport.timeouts transport.jar =
      .ok pool) :
    transport.setProxy proxy =
      .ok { transport with
        pool := pool, config := { transport.config with proxy := proxy } } := by
  rw [setProxy, h]
  rfl

theorem setProxy_of_build_error {proxy : Config.Proxy} {failure : Failure}
    (h : Pool.build? { transport.config with proxy := proxy } transport.timeouts transport.jar =
      .error failure) :
    transport.setProxy proxy = .error failure := by
  rw [setProxy, h]
  rfl

namespace Matches

theorem setProxy (h : Matches first transport) {proxy : Config.Proxy}
    (hSet : transport.setProxy proxy = .ok next) : Matches first next := by
  cases hPool : Pool.build? { transport.config with proxy := proxy } transport.timeouts
      transport.jar with
  | error failure =>
      rw [setProxy_of_build_error hPool] at hSet
      cases hSet
  | ok pool =>
      rw [setProxy_of_build hPool] at hSet
      cases hSet
      exact ⟨hPool, by rw [h.config], h.timeouts, h.jar⟩

/-- The hook and the treatment of bodies have no part in it. -/
theorem other (h : Matches first transport) (treatment : Treatment) (hook : Option Nat) :
    Matches first { transport with treatment := treatment, hook := hook } :=
  ⟨h.pool, h.config, h.timeouts, h.jar⟩

theorem attach (h : Matches first transport) (cell : Nat) (session : Session) :
    Matches first (transport.attach cell session).1 := by
  unfold Transport.attach
  split
  · exact h
  · exact h.other _ _

/-- The pool of a copy can be built as the pool of its source has been. -/
theorem copy (h : Matches first transport) (session : Session) :
    transport.copy session = ({ transport with hook := none }, session) := by
  rw [Transport.copy, copy?_of_build h.pool]

end Matches
end Matching

namespace Family

/-- All transports match the one that they come from, and nothing has been reported. -/
structure Sound (first : Transport) (session : Session) (family : Family) : Prop where
  members : ∀ transport ∈ family.members, Matches first transport
  outputs : family.session.outputs = session.outputs
  jars : family.session.jars = session.jars

namespace Sound

variable {first : Transport} {session : Session} {family : Family}

theorem set (h : Sound first session family) (number : Nat) {next : Transport}
    (hNext : Matches first next) :
    ∀ transport ∈ family.members.set number next, Matches first transport := by
  intro transport hMem
  rcases List.mem_or_eq_of_mem_set hMem with hMem | rfl
  · exact h.members transport hMem
  · exact hNext

theorem append (h : Sound first session family) {next : Transport}
    (hNext : Matches first next) :
    ∀ transport ∈ family.members ++ [next], Matches first transport := by
  intro transport hMem
  rcases List.mem_append.mp hMem with hMem | hMem
  · exact h.members transport hMem
  · rw [List.mem_singleton.mp hMem]
    exact hNext

end Sound

section Steps

variable {first : Transport} {session : Session} {family : Family}

theorem sound_move (h : Sound first session family) (number : Nat) {transport : Transport}
    (hMem : transport ∈ family.members) (move : Move) :
    Sound first session (family.move number transport move) := by
  have hMatches := h.members transport hMem
  cases move with
  | setProxy proxy =>
      -- Settings and pool change together or not at all.
      cases hSet : transport.setProxy proxy with
      | error failure =>
          rw [Family.move, hSet]
          exact h
      | ok next =>
          rw [Family.move, hSet]
          exact ⟨h.set number (hMatches.setProxy hSet), h.outputs, h.jars⟩
  | attach cell =>
      have hSession : (transport.attach cell family.session).2.1.outputs =
          family.session.outputs ∧
          (transport.attach cell family.session).2.1.jars = family.session.jars := by
        unfold Transport.attach
        split <;> exact ⟨rfl, rfl⟩
      exact ⟨h.set number (hMatches.attach cell _), hSession.1.trans h.outputs,
        hSession.2.trans h.jars⟩
  | detach => exact ⟨h.set number (hMatches.other _ none), h.outputs, h.jars⟩
  | treat changes => exact ⟨h.set number (hMatches.other _ _), h.outputs, h.jars⟩
  | tryCopy =>
      rw [Family.move, copy?_of_build hMatches.pool]
      exact ⟨h.append (hMatches.other _ none), h.outputs, h.jars⟩
  | copy =>
      rw [Family.move, hMatches.copy]
      exact ⟨h.append (hMatches.other _ none), h.outputs, h.jars⟩

theorem sound_step (h : Sound first session family) (action : Nat × Move) :
    Sound first session (family.step action) := by
  unfold step
  split
  next transport hSome => exact sound_move h action.1 (List.mem_of_getElem? hSome) action.2
  next => exact h

theorem sound_run (h : Sound first session family) (actions : List (Nat × Move)) :
    Sound first session (family.run actions) := by
  induction actions generalizing family with
  | nil => exact h
  | cons action rest ih => exact ih (sound_step h action)

end Steps
end Family

section Start

variable (config : Config.Transport) (timeouts : Config.Timeouts) (start : Session)

/-- The number of the jar of a transport that is built. -/
def firstJar? : Option Nat := if config.cookies then some start.jars.length else none

/-- A transport is built from its settings, with a new jar if cookies are kept. -/
theorem ofConfig_eq :
    ofConfig config timeouts start =
      (Pool.build? config timeouts (firstJar? config start)).map fun pool =>
        (⟨pool, config, timeouts, firstJar? config start, .standard, none⟩,
          if config.cookies then start.addJar.1 else start) := by
  unfold ofConfig firstJar?
  cases config.cookies with
  | false =>
      simp only [Bool.false_eq_true, if_false]
      cases Pool.build? config timeouts none <;> rfl
  | true =>
      simp only [if_true]
      cases hPool : Pool.build? config timeouts (some start.jars.length) <;>
        simp only [Session.addJar, hPool] <;> rfl

variable {config timeouts start} {session : Session} {first : Transport}

theorem matches_ofConfig (h : ofConfig config timeouts start = .ok (first, session)) :
    Matches first first ∧ first.config = config ∧ first.timeouts = timeouts ∧
      first.jar = firstJar? config start := by
  rw [ofConfig_eq] at h
  cases hPool : Pool.build? config timeouts (firstJar? config start) with
  | error failure =>
      rw [hPool] at h
      cases h
  | ok pool =>
      rw [hPool] at h
      cases h
      exact ⟨⟨hPool, rfl, rfl, rfl⟩, rfl, rfl, rfl⟩

end Start

/-- Whatever is done with a transport that has been built and with all that come from it, each has
the pool that its settings give, and keeps the bounds on time and the jar of the first.  So each
can be copied with a pool of its own, and no copy ever shares the pool of its source. -/
theorem pool_matches_settings {config : Config.Transport} {timeouts : Config.Timeouts}
    {start session : Session} {first : Transport}
    (h : ofConfig config timeouts start = .ok (first, session))
    (actions : List (Nat × Move)) :
    let family := (⟨session, [first]⟩ : Family).run actions
    (first.config = config ∧ first.timeouts = timeouts ∧ first.jar = firstJar? config start) ∧
      (∀ transport ∈ family.members,
        Matches first transport ∧
          transport.pool = ⟨transport.config, transport.timeouts, transport.jar⟩ ∧
          transport.jar.isSome = transport.config.cookies ∧
          transport.copy? = .ok { transport with hook := none } ∧
          ∀ other, transport.copy other = ({ transport with hook := none }, other)) ∧
      (∀ number transport proxy, family.members[number]? = some transport →
        match Pool.build? { transport.config with proxy := proxy } transport.timeouts
            transport.jar with
        | .ok pool =>
          (family.step (number, .setProxy proxy)).members[number]? =
            some { transport with
              pool := pool, config := { transport.config with proxy := proxy } }
        | .error _ => family.step (number, .setProxy proxy) = family) ∧
      family.session.outputs = session.outputs ∧ family.session.jars = session.jars := by
  intro family
  obtain ⟨hMatches, rfl, rfl, hJar⟩ := matches_ofConfig h
  have hFirst : Family.Sound first session ⟨session, [first]⟩ := by
    refine ⟨?_, rfl, rfl⟩
    intro transport hMem
    rw [List.mem_singleton.mp hMem]
    exact hMatches
  have hSound : Family.Sound first session family := Family.sound_run hFirst actions
  refine ⟨⟨rfl, rfl, hJar⟩, ?members, ?policies, hSound.outputs, hSound.jars⟩
  case members =>
    intro transport hMem
    have hKept := hSound.members transport hMem
    refine ⟨hKept, (Pool.build?_eq_ok_iff.mp hKept.pool).2, ?_, copy?_of_build hKept.pool,
      hKept.copy⟩
    rw [hKept.jar, hJar, hKept.config, firstJar?]
    cases first.config.cookies <;> rfl
  case policies =>
    intro number transport proxy hSome
    split
    next pool hPool =>
      obtain ⟨hLt, -⟩ := List.getElem?_eq_some_iff.mp hSome
      simp only [Family.step, hSome, Family.move, setProxy_of_build hPool]
      exact List.getElem?_set_self hLt
    next failure hPool =>
      simp only [Family.step, hSome, Family.move, setProxy_of_build_error hPool]

/-- A transport refuses a policy and is copied; the copy takes another policy, carries a hook and
is copied in turn. -/
theorem pool_matches_settings_of_refused :
    ∃ first session, ofConfig Config.standard.transport Config.standard.timeouts
        (.onDisk (.ofHome [])) = .ok (first, session) ∧
      let family := (⟨session, [first]⟩ : Family).run
        [(0, .setProxy (.address "::not a proxy::")), (0, .copy), (1, .attach 0),
          (1, .setProxy (.address "http://127.0.0.1:3128")), (1, .tryCopy)]
      family.members.map (fun transport => transport.config.proxy) =
          [.environment, .address "http://127.0.0.1:3128", .address "http://127.0.0.1:3128"] ∧
        (∀ transport ∈ family.members,
          transport.pool = ⟨transport.config, transport.timeouts, transport.jar⟩) ∧
        family.session.outputs = session.outputs := by
  have hBuilt : ofConfig Config.standard.transport Config.standard.timeouts
      (.onDisk (.ofHome [])) =
        .ok (⟨⟨Config.standard.transport, Config.standard.timeouts, some 0⟩,
            Config.standard.transport, Config.standard.timeouts, some 0, .standard, none⟩,
          (Session.onDisk (.ofHome [])).addJar.1) := rfl
  refine ⟨_, _, hBuilt, by decide +kernel, ?_, (pool_matches_settings hBuilt _).2.2.2.1⟩
  exact fun transport hMem => ((pool_matches_settings hBuilt _).2.1 transport hMem).2.1

end Transport
end Wiretap
