import Wiretap.Client.Building
import Wiretap.Command.Arguments
import Wiretap.Config.Loading
import Wiretap.Text.Blank

/-!
# Running a command

A command sends one request.  The body of the response goes to standard output,
behind whatever has been dumped there; a failure is told on standard error.

* `Command.exchange` (`run`) does what the arguments ask for; `Command.splitHeader?`
  (`parse_header`) splits a header for it.
* `Command.run` (`main`) reads the arguments, does it, and reports how it went.
-/

namespace Wiretap
namespace Command

/-- Why a command fails. -/
inductive Fault where
  /-- The configuration cannot be loaded. -/
  | config (error : Config.LoadError)
  /-- A header has no colon. -/
  | header (raw : String)
  /-- The client cannot be built, or gets no response. -/
  | client (failure : Failure)
  /-- The program breaks down over the request. -/
  | panic
deriving DecidableEq

/-- What the command says of a fault.  Of a breakdown it says nothing itself. -/
def Fault.message? : Fault → Option String
  | .config error => some error.message
  | .header raw => some ("invalid header '" ++ raw ++ "', expected 'Name: value'")
  | .client failure => some failure.message
  | .panic => none

/-- Splits a header at its first colon and drops the blanks around both parts. -/
def splitHeader? (raw : String) : Option (String × String) :=
  match raw.toList.dropWhile (· != ':') with
  | _ :: value =>
    some (Blank.trim (String.ofList (raw.toList.takeWhile (· != ':'))),
      Blank.trim (String.ofList value))
  | [] => none

namespace Arguments

/-- A configuration with what the arguments change in it. -/
def adjust (arguments : Arguments) (config : Config) : Config :=
  { config with
    transport :=
      if arguments.noProxy then { config.transport with proxy := .direct } else config.transport
    timeouts :=
      match arguments.timeout with
      | some seconds => { config.timeouts with request := seconds }
      | none => config.timeouts }

/-- The configuration that the arguments ask for. -/
def config? (arguments : Arguments) (disk : Disk) : Except Fault Config :=
  match arguments.config with
  | none => .ok (arguments.adjust .standard)
  | some path =>
    match Config.load disk path with
    | .ok config => .ok (arguments.adjust config)
    | .error error => .error (.config error)

/-- The calls that configure the client. -/
def clientCalls (arguments : Arguments) : List Client.Call :=
  .logger (some .warnings)
    :: (if arguments.test then [.testMode] else if arguments.debug then [.debugMode] else [])
    ++ arguments.dump.toList.map .preset
    ++ arguments.dumpFile.toList.map .dumpToFile
    ++ (if arguments.dumpAsync then [.dumpAsync] else [])

/-- The step that adds a header. -/
def headerCall (raw : String) : Except Fault Draft.Call :=
  match splitHeader? raw with
  | some (name, value) => .ok (.header name value)
  | none => .error (.header raw)

/-- The steps that put the request together. -/
def draftCalls (arguments : Arguments) : Except Fault (List Draft.Call) := do
  let headers ← arguments.headers.mapM headerCall
  return [.methodName arguments.method, .url arguments.url] ++ headers
    ++ arguments.data.toList.map fun data => .body (Bytes.ofString data)

end Arguments

/-- Sends the request that the arguments ask for. -/
def exchange (around : Surroundings) (arguments : Arguments) (session : Session) :
    Except Fault Response × Session :=
  match arguments.config? session.outputs.disk with
  | .error fault => (.error fault, session)
  | .ok config =>
    match Client.ofConfig config session with
    | .error failure => (.error (.client failure), session)
    | .ok (client, session) =>
      -- The client is set up first: a malformed header still leaves an empty dump file.
      let (client, session) := client.callAll session arguments.clientCalls
      match arguments.draftCalls with
      | .error fault => (.error fault, session)
      | .ok calls =>
        match (client.draft.applyAll calls).send around session with
        | (.error .panic, session) => (.error .panic, session)
        -- The worker finishes whether there is a response or not.
        | (.error (.failure failure), session) => (.error (.client failure), client.flush session)
        | (.ok response, session) => (.ok response, client.flush session)

/-- How a command ends. -/
structure Outcome where
  /-- The code for whoever started the command. -/
  exit : UInt8
  /-- Everything that has been written and sent. -/
  session : Session

/-- The text that tells what can be asked for. -/
def help : String := "\n".intercalate [
  "Send an HTTP request with optional request/response dumps",
  "",
  "Usage: reqkit [OPTIONS] <URL>",
  "",
  "Arguments:",
  "  <URL>  Target URL",
  "",
  "Options:",
  "  -X, --method <METHOD>              HTTP method [default: GET]",
  "  -H, --header <NAME: VALUE>         Extra header, repeatable",
  "  -d, --data <DATA>                  Request body",
  "      --config <CONFIG>              TOML client configuration",
  "      --debug                        Dump everything, decode text, browser user agent",
  "      --test                         Like --debug, but discard response bodies",
  "      --dump <PRESET>                Dump preset: all, head, body, request or response",
  "      --dump-file <DUMP_FILE>        Write dump records to this file",
  "      --dump-async                   Write dump records from a background worker",
  "      --timeout-secs <TIMEOUT_SECS>  Overall request timeout in seconds, 0 for none",
  "      --no-proxy                     Ignore proxy environment variables",
  "  -h, --help                         Print help",
  ""]

/-- A session with more on standard output. -/
def print (bytes : Bytes) (session : Session) : Session :=
  { session with outputs := session.outputs.deposit .stdout 0 bytes }

/-- A session with more on standard error. -/
def complain (text : String) (session : Session) : Session :=
  { session with outputs := session.outputs.deposit .stderr 0 (Bytes.ofString text) }

/-- What is told of a fault. -/
def complaint (message : String) : String := "reqkit: " ++ message ++ "\n"

/-- Reports how an exchange went. -/
def conclude (result : Except Fault Response × Session) : Outcome :=
  match result.1 with
  | .ok response => ⟨0, print response.body result.2⟩
  | .error fault =>
    match fault.message? with
    | some message => ⟨1, complain (complaint message) result.2⟩
    | none => ⟨101, result.2⟩

/-- Runs a command. -/
def run (around : Surroundings) (words : List String) (session : Session) : Outcome :=
  match Arguments.parse words with
  | .ok arguments => conclude (exchange around arguments session)
  | .error .help => ⟨0, print (Bytes.ofString help) session⟩
  | .error .usage => ⟨2, complain "reqkit: wrong usage, try '--help'\n" session⟩

end Command
end Wiretap
