import Std.Async.DNS
import Std.Async.Select
import Std.Async.TCP
import Std.Async.Timer
import Wiretap.Command.Run
import Wiretap.Message.Wire
import Wiretap.Message.Wire.Reading
import Wiretap.Transport.Route

/-!
# The command line

What a run does to the world around it.  The files that the arguments name are
looked at first; then the command is run on what is known, and whenever it turns
out to send a request that has not been answered yet, the request is sent and
the command is run again.  At the end everything that has been written is passed
on.
-/

namespace Wiretap
namespace CommandLine

open Std.Async
open Std.Net

/-- A location as a path; below the working directory it is relative. -/
def pathOf (disk : Disk) (location : Disk.Location) : String :=
  if disk.home.isPrefixOf location then
    "./" ++ "/".intercalate (location.drop disk.home.length)
  else "/" ++ "/".intercalate location

/-- Goes from a directory to one in it; what is found is added to what is known. -/
def lookInto (state : Disk × Disk.Location) (name : String) : IO (Disk × Disk.Location) := do
  let (disk, location) := state
  if name = "." then return state
  else if name = ".." then return (disk, location.dropLast)
  else
    let next := location ++ [name]
    let isThere ← try
      let _ ← IO.FS.Handle.mk (pathOf disk next ++ "/.") .read
      pure true
    catch _ => pure false
    if isThere && !disk.isDirectory next then
      return ({ disk with directories := disk.directories ++ [next] }, next)
    else return (disk, next)

/-- Looks at a path and the directories on the way to it. -/
def lookAt (disk : Disk) (path : String) : IO Disk := do
  let names := (path.splitOn "/").filter (· ≠ "")
  let start := if path.toList.head? = some '/' then [] else disk.home
  let (disk, _) ← names.foldlM lookInto (disk, start)
  let bytes? ← try
    let bytes ← IO.FS.readBinFile path
    pure (some bytes.toList)
  catch _ => pure none
  match bytes?, disk.create path with
  | some bytes, .ok (next, location) => return next.put location bytes
  | _, _ => return disk

/-- The working directory and nothing else. -/
def workingDisk : IO Disk := do
  match ← IO.getEnv "PWD" with
  | some path => return .ofHome ((path.splitOn "/").filter (· ≠ ""))
  | none => return .ofHome [".", "."]

/-- What the environment says of proxies. -/
def environment : IO Route.Environment := do
  let either (a b : String) : IO (Option String) := do
    return (← IO.getEnv a).or (← IO.getEnv b)
  return ⟨← either "http_proxy" "HTTP_PROXY", ← either "all_proxy" "ALL_PROXY",
    ← either "no_proxy" "NO_PROXY"⟩

/-- Receives until the response is complete, the connection ends or the time is up. -/
partial def receive (socket : TCP.Socket.Client) (deadline : Option Nat) (reader : Wire.Reader) :
    Async Reply := do
  if reader.isDone then return reader.reply false
  let now ← IO.monoMsNow
  let incoming : Selectable (Option (Option ByteArray)) :=
    .case (socket.recvSelector 65536) fun bytes => return some bytes
  let taken ← match deadline with
    | none => Selectable.one #[incoming]
    | some limit =>
      if limit ≤ now then pure none
      else
        let clock ← Selector.sleep (.ofNat (limit - now))
        Selectable.one #[incoming, .case clock fun _ => return none]
  match taken with
  | none => return reader.reply true
  | some none => return reader.reply false
  | some (some bytes) => receive socket deadline (reader.feed bytes.toList)

/-- Connects to the first address of a host. -/
def connect (host : String) (port : UInt16) : Async TCP.Socket.Client := do
  let addresses ← DNS.getAddrInfo host ""
  match addresses[0]? with
  | none => throw (IO.userError "no address")
  | some address =>
    let socket ← TCP.Socket.Client.mk
    socket.connect (match address with
      | .v4 a => .v4 ⟨a, port⟩
      | .v6 a => .v6 ⟨a, port⟩)
    return socket

/-- Sends a request and receives what comes back. -/
def exchange (surroundings : Route.Environment) (contact : Contact) : IO Reply := do
  let request := contact.request
  let proxy? := Route.proxy? surroundings contact.route request.url
  let (host, port) := Route.endpoint (proxy?.getD request.url)
  let limit := request.timeout.map fun limit => limit.nanos / 1000000 + 1
  try
    Async.block do
      let start ← IO.monoMsNow
      let socket ← connect host port
      socket.send (ByteArray.mk (Wire.request proxy?.isSome request).toArray)
      receive socket (limit.map (start + ·)) (.start request)
  catch _ => return .refused

/-- Runs the command, sending each request once. -/
partial def settle (surroundings : Route.Environment) (now : Int) (words : List String)
    (session : Session) (replies : List Reply) : IO Command.Outcome := do
  let outcome := Command.run ⟨.replay replies, .standard, now⟩ words session
  match outcome.session.contacts[replies.length]? with
  | none => return outcome
  | some contact =>
    let reply ← exchange surroundings contact
    settle surroundings now words session (replies ++ [reply])

/-- The files that arguments name. -/
def namedFiles (words : List String) (disk : Disk) : List String :=
  match Command.Arguments.parse words with
  | .error _ => []
  | .ok arguments =>
    let output := match arguments.config? disk with
      | .ok config => [config.dump.output]
      | .error _ => []
    arguments.config.toList ++ arguments.dumpFile.toList ++ output

/-- Writes the files that have changed. -/
def writeFiles (before after : Disk) : IO Unit := do
  for (location, bytes) in after.files do
    if before.contents? location ≠ some bytes then
      IO.FS.writeBinFile (pathOf before location) (ByteArray.mk bytes.toArray)

/-- Passes bytes on to a stream. -/
def pass (stream : IO.FS.Stream) (bytes : Bytes) : IO Unit := do
  stream.write (ByteArray.mk bytes.toArray)
  stream.flush

/-- Runs the command that the arguments ask for. -/
def run (words : List String) : IO UInt32 := do
  let start ← workingDisk
  let known ← (namedFiles words start).foldlM lookAt start
  let disk ← (namedFiles words known).foldlM lookAt known
  let now ← Std.Time.Timestamp.now
  let outcome ← settle (← environment) now.toSecondsSinceUnixEpoch.val words (.onDisk disk) []
  let outputs := outcome.session.outputs
  writeFiles disk outputs.disk
  pass (← IO.getStdout) outputs.stdout
  for warning in outputs.warnings do
    (← IO.getStderr).putStrLn warning.text
  pass (← IO.getStderr) outputs.stderr
  return outcome.exit.toUInt32

end CommandLine
end Wiretap

/-- Runs the command that the arguments ask for. -/
def main (words : List String) : IO UInt32 := Wiretap.CommandLine.run words
