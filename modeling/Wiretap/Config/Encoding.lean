import Wiretap.Config.Basic
import Wiretap.Json.Basic

/-!
# Writing configurations

A configuration as a document, with every field of every section.
-/

namespace Wiretap
namespace Config

/-- The timeouts as a document. -/
def Timeouts.toJson (t : Timeouts) : Json :=
  .object [
    ("request_secs", .nat t.request.toNat),
    ("connect_secs", .nat t.connect.toNat),
    ("idle_secs", .nat t.idle.toNat)]

/-- The settings of connections as a document. -/
def Transport.toJson (t : Transport) : Json :=
  .object [
    ("http2", .bool t.http2),
    ("max_idle_per_host", .nat t.maxIdlePerHost.toNat),
    ("proxy", .text t.proxy.text),
    ("cookies", .bool t.cookies)]

/-- The settings of dumps as a document. -/
def Dump.toJson (d : Dump) : Json :=
  .object [
    ("enabled", .bool d.enabled),
    ("preset", .text d.preset.name),
    ("async_mode", .bool d.isAsync),
    ("output", .text d.output)]

/-- The settings of response bodies as a document. -/
def ofTreatment (r : Treatment) : Json :=
  .object [
    ("auto_decode_text", .bool r.autoDecode),
    ("discard_body", .bool r.discardBody)]

/-- A configuration as a document. -/
def toJson (config : Config) : Json :=
  .object [
    ("timeouts", config.timeouts.toJson),
    ("transport", config.transport.toJson),
    ("headers", .object (config.headers.map fun header => (header.1, .text header.2))),
    ("user_agent", (config.userAgent.map Json.text).getD .null),
    ("dump", config.dump.toJson),
    ("response", ofTreatment config.response),
    ("mode", .text config.mode.name)]

end Config
end Wiretap
