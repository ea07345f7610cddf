import Wiretap.Config.Basic
import Wiretap.Text.Inspect

/-!
# Configurations for inspection

The sections of a configuration as shown to someone who debugs a program.
-/

namespace Wiretap
namespace Config

/-- The policy as shown for inspection. -/
def Proxy.inspect : Proxy → String
  | .environment => "Environment"
  | .direct => "Disabled"
  | .address raw => "Url(" ++ Inspect.quoted raw ++ ")"

/-- The settings of connections as shown for inspection. -/
def Transport.inspect (t : Transport) : String :=
  Inspect.record "TransportConfig" [
    ("http2", Inspect.truth t.http2),
    ("max_idle_per_host", toString t.maxIdlePerHost.toNat),
    ("proxy", t.proxy.inspect),
    ("cookies", Inspect.truth t.cookies)]

/-- The bounds on time as shown for inspection. -/
def Timeouts.inspect (t : Timeouts) : String :=
  Inspect.record "TimeoutConfig" [
    ("request_secs", toString t.request.toNat),
    ("connect_secs", toString t.connect.toNat),
    ("idle_secs", toString t.idle.toNat)]

end Config
end Wiretap
