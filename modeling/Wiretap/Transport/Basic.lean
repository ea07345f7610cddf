import Wiretap.Config.Inspection
import Wiretap.Session
import Wiretap.Transport.Pool

/-!
# Transports

A transport owns a pool, says how bodies are treated, and may carry a dump hook.
The pool is built anew whenever the settings change, so that the two always
match.

* `Transport.ofConfig` builds a transport; it fails only with its pool.
* `Transport.attach` (`attach_dump`) and `Transport.detach` (`detach_dump`) put a hook on and take
  it off.
* `Transport.treat` (`apply_response_options`) changes how bodies are treated.
* `Transport.setProxy` (`set_proxy`) changes the policy; on failure nothing changes.
* `Transport.copy?` (`try_clone`) builds a transport with a pool of its own, the same jar and no
  hook; `Transport.copy` (`clone`) keeps the pool if that fails.
* `Transport.handle` (`handle`) is what a request keeps of a transport.
-/

namespace Wiretap

/-- A transport. -/
structure Transport where
  /-- Makes connections. -/
  pool : Pool
  /-- The settings of connections. -/
  config : Config.Transport
  /-- The bounds on time. -/
  timeouts : Config.Timeouts
  /-- The number of the cookie jar, if cookies are kept. -/
  jar : Option Nat
  /-- How response bodies are treated. -/
  treatment : Treatment
  /-- The number of the hook, if there is one. -/
  hook : Option Nat
deriving DecidableEq

/-- What a request keeps of the transport by which it will be sent. -/
structure Transport.Handle where
  /-- Makes connections. -/
  pool : Pool
  /-- How the response body is treated. -/
  treatment : Treatment
  /-- The number of the hook, if there is one. -/
  hook : Option Nat
deriving DecidableEq

namespace Transport

/-- Builds a transport, with an empty jar if cookies are kept. -/
def ofConfig (config : Config.Transport) (timeouts : Config.Timeouts) (session : Session) :
    Except Failure (Transport × Session) := do
  let (session, jar) :=
    if config.cookies then
      let (session, number) := session.addJar
      (session, some number)
    else (session, none)
  let pool ← Pool.build? config timeouts jar
  return (⟨pool, config, timeouts, jar, .standard, none⟩, session)

/-- Whether a hook is attached. -/
def isArmed (transport : Transport) : Bool := transport.hook.isSome

/-- Attaches a hook that reads a cell, unless there is one already; the flag tells whether it was
attached. -/
def attach (transport : Transport) (cell : Nat) (session : Session) :
    Transport × Session × Bool :=
  -- A second hook would write every record twice.
  if transport.isArmed then (transport, session, false)
  else
    let (session, hook) := session.attachHook cell
    ({ transport with hook := some hook }, session, true)

/-- Takes the hook off. -/
def detach (transport : Transport) : Transport := { transport with hook := none }

/-- Changes how response bodies are treated. -/
def treat (transport : Transport) (changes : List Treatment.Change) : Transport :=
  { transport with treatment := transport.treatment.applyAll changes }

/-- Changes the policy on proxies and builds a pool that follows it. -/
def setProxy (transport : Transport) (proxy : Config.Proxy) : Except Failure Transport := do
  let config := { transport.config with proxy := proxy }
  let pool ← Pool.build? config transport.timeouts transport.jar
  return { transport with pool := pool, config := config }

/-- What a request keeps of the transport. -/
def handle (transport : Transport) : Handle :=
  ⟨transport.pool, transport.treatment, transport.hook⟩

/-- Builds a transport with a pool of its own, the same jar and no hook. -/
def copy? (transport : Transport) : Except Failure Transport := do
  let pool ← Pool.build? transport.config transport.timeouts transport.jar
  return { transport with pool := pool, hook := none }

/-- A copy of a transport.  If no pool can be built, it shares the one that is there. -/
def copy (transport : Transport) (session : Session) : Transport × Session :=
  match transport.copy? with
  | .ok next => (next, session)
  | .error _ => ({ transport with hook := none }, session.warn .poolShared)

/-- The transport as shown for inspection. -/
def inspect (transport : Transport) : String :=
  Inspect.record "Transport" [
    ("config", transport.config.inspect),
    ("timeouts", transport.timeouts.inspect),
    ("response_options", transport.treatment.inspect),
    ("dump_enabled", Inspect.truth transport.isArmed)]

end Transport
end Wiretap
