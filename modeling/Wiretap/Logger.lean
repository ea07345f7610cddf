import Wiretap.Dump.Output

/-!
# Loggers

A client reports to its logger what goes wrong while it is configured.  A logger
drops messages, turns them into warnings, or writes them line by line.
-/

namespace Wiretap

/-- Where the messages of a client go. -/
inductive Logger where
  /-- Messages are dropped. -/
  | silent
  /-- Messages become warnings. -/
  | warnings
  /-- Messages are written to a place, one on a line. -/
  | writer (place : Dump.Place)
deriving DecidableEq

namespace Logger

/-- Whether messages are seen by anyone. -/
def isEnabled : Logger → Bool
  | .silent => false
  | _ => true

/-- Sends a message. -/
def log (logger : Logger) (message : String) (outputs : Dump.Outputs) : Dump.Outputs :=
  match logger with
  | .silent => outputs
  | .warnings => outputs.warn (.message message)
  | .writer place =>
    outputs.deposit place (outputs.contents place).length (Bytes.ofString (message ++ "\n"))

/-- A writing logger as shown for inspection. -/
def inspectWriter : String := Inspect.openRecord "WriterLogger" []

end Logger
end Wiretap
