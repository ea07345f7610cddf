import Wiretap.Config.Basic
import Wiretap.Header.Name
import Wiretap.Header.Value
import Wiretap.Text.Blank
import Wiretap.Url.Reading

/-!
# Checking configurations

A configuration can be well-formed and still be of no use.  All problems are
reported, each one once, and none hides another.

* `Config.problems` (`validate_config`) lists the problems of a configuration; it is usable if
  there are none.
-/

namespace Wiretap
namespace Config

/-- One of the timeouts. -/
inductive TimeoutField where
  | request
  | connect
  | idle
deriving DecidableEq

/-- The name of a timeout. -/
def TimeoutField.name : TimeoutField → String
  | .request => "request_secs"
  | .connect => "connect_secs"
  | .idle => "idle_secs"

/-- Something that makes a configuration useless. -/
inductive Problem where
  /-- A timeout is greater than allowed. -/
  | timeoutTooLarge (field : TimeoutField) (value limit : Nat)
  /-- The address of the proxy is none. -/
  | invalidProxy (raw : String)
  /-- A header has no legal name. -/
  | invalidHeaderName (name : String)
  /-- A header has no legal value. -/
  | invalidHeaderValue (name : String)
  /-- The name of the output is blank. -/
  | emptyDumpOutput
deriving DecidableEq

/-- What is said of a problem. -/
def Problem.message : Problem → String
  | .timeoutTooLarge field value limit =>
    "timeouts." ++ field.name ++ " must be at most " ++ toString limit ++ " seconds, got "
      ++ toString value
  | .invalidProxy raw => "transport.proxy is not a valid URL: " ++ raw
  | .invalidHeaderName name => "invalid header name '" ++ name ++ "'"
  | .invalidHeaderValue name => "invalid value for header '" ++ name ++ "'"
  | .emptyDumpOutput => "dump.output must not be empty"

/-- The greatest timeout in seconds: one day. -/
def timeoutLimit : Nat := 86400

/-- The problem of a timeout. -/
def timeoutProblems (field : TimeoutField) (value : UInt64) : List Problem :=
  if timeoutLimit < value.toNat then [.timeoutTooLarge field value.toNat timeoutLimit] else []

/-- Whether a text is an absolute address. -/
def isAddress (raw : String) : Bool :=
  match Url.parse raw with
  | .ok _ => true
  | .error _ => false

/-- The problem of a proxy policy. -/
def proxyProblems : Proxy → List Problem
  | .address raw => if isAddress raw then [] else [.invalidProxy raw]
  | _ => []

/-- The problem of a header: its name is looked at first. -/
def headerProblems (header : String × String) : List Problem :=
  if (Header.Name.ofString? header.1).isNone then [.invalidHeaderName header.1]
  else if (Header.Value.ofString? header.2).isNone then [.invalidHeaderValue header.1]
  else []

/-- The problem of the user agent. -/
def userAgentProblems : Option String → List Problem
  | some value =>
    if (Header.Value.ofString? value).isNone then [.invalidHeaderValue userAgentName] else []
  | none => []

/-- The problem of the name of the output. -/
def outputProblems (output : String) : List Problem :=
  if Blank.trim output = "" then [.emptyDumpOutput] else []

/-- All problems of a configuration. -/
def problems (config : Config) : List Problem :=
  timeoutProblems .request config.timeouts.request
    ++ timeoutProblems .connect config.timeouts.connect
    ++ timeoutProblems .idle config.timeouts.idle
    ++ proxyProblems config.transport.proxy
    ++ config.headers.flatMap headerProblems
    ++ userAgentProblems config.userAgent
    ++ outputProblems config.dump.output

end Config
end Wiretap
