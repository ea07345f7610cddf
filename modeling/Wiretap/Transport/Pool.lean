import Wiretap.Config.Basic
import Wiretap.Failure
import Wiretap.Url.Reading

/-!
# Pools

Connections are made by a pool.  A pool is settled by what it is built from, so
that is all there is to know of it: two pools built from the same things behave
alike.

* `Pool.build?` (`build_pool`) fails only if the policy names a proxy of no use.
-/

namespace Wiretap

/-- Whether an address names a host that is not empty. -/
def Url.namesHost (url : Url) : Bool := url.hostText?.isSome

namespace Config.Proxy

/-- Whether an address can be a proxy after a scheme has been put in front of it. -/
def isUsableWithScheme (raw : String) : Bool :=
  match Url.parse ("http://" ++ raw) with
  | .ok url => url.namesHost
  | .error _ => false

/-- Whether an address can be a proxy.  One that names no host, perhaps because its scheme is
missing, is read again with a scheme in front. -/
def isUsableAddress (raw : String) : Bool :=
  match Url.parse raw with
  | .ok url => url.namesHost || isUsableWithScheme raw
  | .error .relativeWithoutBase => isUsableWithScheme raw
  | .error _ => false

/-- Whether connections can follow a policy. -/
def isUsable : Proxy → Bool
  | .address raw => isUsableAddress raw
  | _ => true

end Config.Proxy

/-- Something that makes connections. -/
structure Pool where
  /-- The settings that it was built from. -/
  config : Config.Transport
  /-- The bounds on time that it was built from. -/
  timeouts : Config.Timeouts
  /-- The number of the jar from which it takes cookies and to which it gives them. -/
  jar : Option Nat
deriving DecidableEq

namespace Pool

/-- What is said of a proxy that is of no use. -/
def proxyReason (proxy : Config.Proxy) : String :=
  "invalid proxy '" ++ proxy.text ++ "': builder error"

/-- Builds a pool. -/
def build? (config : Config.Transport) (timeouts : Config.Timeouts) (jar : Option Nat) :
    Except Failure Pool :=
  if config.proxy.isUsable then .ok ⟨config, timeouts, jar⟩
  else .error (.unbuildable (proxyReason config.proxy))

theorem build?_eq_ok_iff {config : Config.Transport} {timeouts : Config.Timeouts}
    {jar : Option Nat} {pool : Pool} :
    build? config timeouts jar = .ok pool ↔
      config.proxy.isUsable = true ∧ pool = ⟨config, timeouts, jar⟩ := by
  unfold build?
  split
  next h =>
    constructor
    · intro hok
      cases hok
      exact ⟨h, rfl⟩
    · rintro ⟨-, rfl⟩
      rfl
  next h =>
    constructor
    · intro hok
      cases hok
    · rintro ⟨hok, -⟩
      exact absurd hok h

end Pool
end Wiretap
