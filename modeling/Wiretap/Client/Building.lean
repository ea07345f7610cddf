import Wiretap.Client.Call

/-!
# Building clients

A client is built from a configuration, section by section.  Only the transport
can fail; an output that cannot be opened is reported, and dumping stays off.

* `Client.ofConfig` (`from_config`) builds a client.
* `Client.configure` goes through the sections behind the one on the transport;
  `Client.startDump` is the branch for dumping, and `Client.enter` the one for the mode.
-/

namespace Wiretap
namespace Client

/-- The changes that a configured treatment stands for. -/
def changesOf (treatment : Treatment) : List Treatment.Change :=
  (if treatment.autoDecode then [.decode] else [])
    ++ (if treatment.discardBody then [.discard] else [])

/-- Starts dumping as configured. -/
def startDump (client : Client) (dump : Config.Dump) (session : Session) : Client × Session :=
  match (Dump.Target.ofText dump.output).openIn session.outputs with
  | .error fault => (client, client.report (fileReport fault) (session.warn .outputNotOpened))
  | .ok (outputs, output) =>
    let (client, session) := client.dumpOnly dump.preset { session with outputs := outputs }
    let (client, session) := client.dumpTo output session
    if dump.isAsync then client.dumpAsync session else (client, session)

/-- Turns on a mode. -/
def enter (client : Client) (mode : Config.Mode) (session : Session) : Client × Session :=
  match mode with
  | .normal => (client, session)
  | .debug => client.debugMode session
  | .test => client.testMode session

/-- Configures a client by all sections but the one on its transport. -/
def configure (client : Client) (config : Config) (session : Session) : Client × Session :=
  let client := client.setHeaders config.headers
  let client := (config.userAgent.map client.setUserAgent).getD client
  let client := client.treat (changesOf config.response)
  let (client, session) :=
    if config.dump.enabled then client.startDump config.dump session else (client, session)
  client.enter config.mode session

/-- Builds a client. -/
def ofConfig (config : Config) (session : Session) : Except Failure (Client × Session) := do
  let (transport, session) ← Transport.ofConfig config.transport config.timeouts session
  let (session, cell) := session.addCell none
  let client : Client := ⟨transport, cell, [], .silent, config.timeouts.requestBound?⟩
  return client.configure config session

end Client
end Wiretap
