import Wiretap.Client.Basic

/-!
# Dump control

A client is armed when its transport has a hook.  Every call that arms also makes
sure that there are options: the standard ones, unless there are others.
Disarming keeps the options, so that the next call that arms goes on with them.

* `Client.arm` (`enable_dump`) and `Client.disarm` (`detach_dump`) switch dumping on and off;
  `dump` calls the one or the other.
* `Client.editOptions` (`update_dump`) changes the options and arms, and with it do
  `Client.dumpOnly` (`dump_preset`), `Client.dumpTo` (`dump_to`) and `Client.dumpAsync`
  (`dump_async`).  `Client.currentOptions` is what they start from (`dump_options_mut`).
* `Client.setOptions` (`set_dump_options`) replaces the options and leaves the rest alone.
* `Client.dumpToFile` (`dump_to_file`) sends records to a file, or reports why it cannot.
* `Client.flush` is `flush_dump`, and `Client.isFlushed` its answer: whether everything that was
  accepted has been written.
-/

namespace Wiretap
namespace Client

/-- The options that a change starts from. -/
def currentOptions (client : Client) (session : Session) : Dump.Options :=
  (client.options? session).getD .standard

/-- Arms the client, with standard options if there are none. -/
def arm (client : Client) (session : Session) : Client × Session :=
  if client.isArmed then (client, session)
  else
    -- A hook without options would write nothing, so the cell is filled first.
    let session := session.setOptions client.cell (client.currentOptions session)
    let (transport, session, _) := client.transport.attach client.cell session
    ({ client with transport := transport }, session)

/-- Disarms the client and keeps its options. -/
def disarm (client : Client) : Client :=
  { client with transport := client.transport.detach }

/-- Replaces the options; this arms nothing. -/
def setOptions (client : Client) (options : Dump.Options) (session : Session) : Session :=
  session.setOptions client.cell options

/-- Changes the options and arms the client. -/
def editOptions (client : Client) (change : Dump.Options → Dump.Options) (session : Session) :
    Client × Session :=
  client.arm (client.setOptions (change (client.currentOptions session)) session)

/-- Captures the parts of a preset. -/
def dumpOnly (client : Client) (preset : Dump.Preset) (session : Session) : Client × Session :=
  client.editOptions (fun options => options.apply preset) session

/-- Sends records to an output. -/
def dumpTo (client : Client) (output : Dump.Output) (session : Session) : Client × Session :=
  client.editOptions (fun options => { options with output := some output }) session

/-- Writes records in the background. -/
def dumpAsync (client : Client) (session : Session) : Client × Session :=
  client.editOptions (fun options => { options with isAsync := true }) session

/-- What is reported of a file that cannot be created. -/
def fileReport (fault : Disk.Fault) : String := "create dump file error: " ++ fault.message

/-- Sends records to a new file.  If it cannot be created, that is reported and nothing changes. -/
def dumpToFile (client : Client) (path : String) (session : Session) : Client × Session :=
  match session.outputs.openFile path with
  | .ok (outputs, output) => client.dumpTo output { session with outputs := outputs }
  | .error fault =>
    (client, client.report (fileReport fault) (session.warn .fileNotCreated))

/-- Lets the worker of the hook finish. -/
def flush (client : Client) (session : Session) : Session :=
  match client.transport.hook with
  | some hook => session.drain hook
  | none => session

/-- Whether everything that the hook has accepted has been written. -/
def isFlushed (client : Client) (session : Session) : Bool :=
  match client.transport.hook with
  | some hook =>
    match session.hooks[hook]? with
    | some found => found.isFlushed
    | none => true
  | none => true

@[simp]
theorem isArmed_disarm (client : Client) : client.disarm.isArmed = false := rfl

/-- After a client has been armed, it is. -/
@[simp]
theorem isArmed_arm (client : Client) (session : Session) :
    (client.arm session).1.isArmed = true := by
  unfold arm
  split
  next h => exact h
  next h =>
    have hnone : client.transport.hook = none := by simpa [isArmed, Transport.isArmed] using h
    simp [isArmed, Transport.attach, Transport.isArmed, hnone]

end Client
end Wiretap
