import Wiretap.Dump.Preset
import Wiretap.Duration
import Wiretap.Treatment

/-!
# Configuration

Everything that a client can be configured with before it is built.  Each
section has defaults of its own, so that a configuration may leave out whatever
it does not want to change.
-/

namespace Wiretap
namespace Config

/-- Timeouts in seconds; zero means that there is none. -/
structure Timeouts where
  /-- For a request with its response. -/
  request : UInt64
  /-- For making a connection. -/
  connect : UInt64
  /-- For keeping an idle connection. -/
  idle : UInt64
deriving DecidableEq

/-- Two minutes for a request, ten seconds to connect, one and a half minutes idle. -/
def Timeouts.standard : Timeouts := ⟨120, 10, 90⟩

/-- The bound on the time of a request. -/
def Timeouts.requestBound? (timeouts : Timeouts) : Option Duration :=
  (Duration.ofSeconds timeouts.request.toNat).bound?

/-- How connections find a proxy. -/
inductive Proxy where
  /-- As the environment says. -/
  | environment
  /-- There is none. -/
  | direct
  /-- Everything goes through the proxy of an address. -/
  | address (raw : String)
deriving DecidableEq

namespace Proxy

/-- Reads a proxy policy; what is no keyword is taken for an address. -/
def ofText (raw : String) : Proxy :=
  match raw with
  | "env" => .environment
  | "environment" => .environment
  | "" => .environment
  | "none" => .direct
  | "off" => .direct
  | _ => .address raw

/-- The policy as text. -/
def text : Proxy → String
  | .environment => "env"
  | .direct => "none"
  | .address raw => raw

/-- A policy that was read from text is read again from its own text. -/
theorem ofText_text_ofText (raw : String) : ofText (ofText raw).text = ofText raw := by
  cases h : ofText raw with
  | environment => rfl
  | direct => rfl
  | address other =>
    have hother : other = raw := by
      unfold ofText at h
      split at h <;> cases h
      rfl
    rw [text, hother, h, hother]

end Proxy

/-- Connections and protocol. -/
structure Transport where
  /-- Whether version 2 may be used. -/
  http2 : Bool
  /-- How many idle connections are kept for each host. -/
  maxIdlePerHost : UInt64
  /-- How connections find a proxy. -/
  proxy : Proxy
  /-- Whether cookies are kept. -/
  cookies : Bool
deriving DecidableEq

/-- Version 2 allowed, a hundred idle connections, proxy of the environment, cookies kept. -/
def Transport.standard : Transport := ⟨true, 100, .environment, true⟩

/-- What is dumped and where. -/
structure Dump where
  /-- Whether dumping is on from the start. -/
  enabled : Bool
  /-- The parts that are captured. -/
  preset : Wiretap.Dump.Preset
  /-- Whether records are written in the background. -/
  isAsync : Bool
  /-- The name of the output. -/
  output : String
deriving DecidableEq

/-- Off; if turned on, everything goes to standard output at once. -/
def Dump.standard : Dump := ⟨false, .all, false, "stdout"⟩

/-- A bundle of further settings. -/
inductive Mode where
  | normal
  | debug
  | test
deriving DecidableEq

/-- The name of a mode. -/
def Mode.name : Mode → String
  | .normal => "normal"
  | .debug => "debug"
  | .test => "test"

/-- The mode of a name. -/
def Mode.ofName? : String → Option Mode
  | "normal" => some .normal
  | "debug" => some .debug
  | "test" => some .test
  | _ => none

/-- A name stands for its own mode only. -/
theorem Mode.ofName?_eq_some_iff {raw : String} {mode : Mode} :
    Mode.ofName? raw = some mode ↔ raw = mode.name := by
  constructor
  · intro h
    unfold Mode.ofName? at h
    split at h <;> cases h <;> rfl
  · rintro rfl
    cases mode <;> rfl

/-- The name of the header that says which program sends a request. -/
def userAgentName : String := "User-Agent"

end Config

/-- The configuration of a client. -/
structure Config where
  /-- Timeouts. -/
  timeouts : Config.Timeouts
  /-- Connections and protocol. -/
  transport : Config.Transport
  /-- Headers of every request: names with their values, in the order in which they are taken. -/
  headers : List (String × String)
  /-- The value of the `User-Agent` header. -/
  userAgent : Option String
  /-- What is dumped and where. -/
  dump : Config.Dump
  /-- How response bodies are treated. -/
  response : Treatment
  /-- A bundle of further settings. -/
  mode : Config.Mode
deriving DecidableEq

/-- The configuration that leaves out everything. -/
def Config.standard : Config :=
  ⟨.standard, .standard, [], none, .standard, .standard, .normal⟩

end Wiretap
