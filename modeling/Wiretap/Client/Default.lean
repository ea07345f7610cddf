import Wiretap.Client.Building

/-!
# The default client

One client stands in wherever none is named.  Replacing it leaves alone whoever
holds the one before.

* `DefaultClient.start` makes the first one, which `default_client` hands out.
* `DefaultClient.replace` (`set_default_client`) puts another client in its place.
-/

namespace Wiretap

/-- The client that stands in wherever none is named. -/
structure DefaultClient where
  /-- The client. -/
  client : Client
  /-- How often it has been replaced. -/
  turn : Nat
deriving DecidableEq

namespace DefaultClient

/-- The first default client is built from the standard configuration. -/
def start (session : Session) : Except Failure (DefaultClient × Session) := do
  let (client, session) ← Client.ofConfig .standard session
  return (⟨client, 0⟩, session)

/-- Puts another client in place of the default one, if one is given. -/
def replace (current : DefaultClient) (client : Option Client) : DefaultClient :=
  match client with
  | some client => ⟨client, current.turn + 1⟩
  | none => current

end DefaultClient
end Wiretap
