import Wiretap.Client.Dumping

/-!
# Configuration calls

Everything that can be changed on a client after it has been built.  No call
fails: what cannot be done is reported to the logger and changes nothing.

* `Client.debugMode` (`debug_mode`) and `Client.testMode` (`test_mode`) make several changes
  at once.
* `Client.Call` is a call, and `Client.call` makes it.
-/

namespace Wiretap
namespace Client

/-- The name under which a widespread browser sends requests. -/
def chromeAgent : String :=
  "Mozilla/5.0 (Macintosh; Intel Mac OS X 10_15_7) AppleWebKit/537.36 (KHTML, like Gecko) "
    ++ "Chrome/97.0.4692.71 Safari/537.36"

/-- The name under which another widespread browser sends requests. -/
def firefoxAgent : String :=
  "Mozilla/5.0 (Macintosh; Intel Mac OS X 10.15; rv:95.0) Gecko/20100101 Firefox/95.0"

/-- Decodes text, dumps exchanges, reports to standard output, and poses as a browser. -/
def debugMode (client : Client) (session : Session) : Client × Session :=
  let (client, session) := (client.treat [.decode]).arm session
  ((client.setLogger (some (.writer .stdout))).setUserAgent chromeAgent, session)

/-- The same, and drops response bodies. -/
def testMode (client : Client) (session : Session) : Client × Session :=
  let (client, session) := client.debugMode session
  (client.treat [.discard], session)

/-- A configuration call. -/
inductive Call where
  /-- Sets a header. -/
  | header (name value : String)
  /-- Sets headers. -/
  | headers (list : List (String × String))
  /-- Sets the name of the program. -/
  | userAgent (value : String)
  /-- Sets the bound on time. -/
  | timeout (limit : Duration)
  /-- Changes the policy on proxies. -/
  | proxy (proxy : Config.Proxy)
  /-- Changes how response bodies are treated. -/
  | treat (changes : List Treatment.Change)
  /-- Sets the logger, if one is given. -/
  | logger (logger : Option Logger)
  /-- Switches dumping on or off. -/
  | dump (enable : Bool)
  /-- Replaces the dump options. -/
  | options (options : Dump.Options)
  /-- Captures the parts of a preset. -/
  | preset (preset : Dump.Preset)
  /-- Sends records to an output. -/
  | dumpTo (output : Dump.Output)
  /-- Sends records to a file. -/
  | dumpToFile (path : String)
  /-- Writes records in the background. -/
  | dumpAsync
  /-- Turns on what helps to find faults. -/
  | debugMode
  /-- Turns on what helps in tests. -/
  | testMode

/-- Makes a call. -/
def call (client : Client) (session : Session) : Call → Client × Session
  | .header name value => (client.setHeader name value, session)
  | .headers list => (client.setHeaders list, session)
  | .userAgent value => (client.setUserAgent value, session)
  | .timeout limit => (client.setTimeout limit, session)
  | .proxy proxy => client.setProxy proxy session
  | .treat changes => (client.treat changes, session)
  | .logger logger => (client.setLogger logger, session)
  | .dump true => client.arm session
  | .dump false => (client.disarm, session)
  | .options options => (client, client.setOptions options session)
  | .preset preset => client.dumpOnly preset session
  | .dumpTo output => client.dumpTo output session
  | .dumpToFile path => client.dumpToFile path session
  | .dumpAsync => client.dumpAsync session
  | .debugMode => client.debugMode session
  | .testMode => client.testMode session

/-- Makes calls in order. -/
def callAll (client : Client) (session : Session) (calls : List Call) : Client × Session :=
  calls.foldl (fun state c => state.1.call state.2 c) (client, session)

@[simp]
theorem callAll_append (client : Client) (session : Session) (first second : List Call) :
    client.callAll session (first ++ second) =
      (client.callAll session first).1.callAll (client.callAll session first).2 second := by
  simp [callAll]

end Client
end Wiretap
