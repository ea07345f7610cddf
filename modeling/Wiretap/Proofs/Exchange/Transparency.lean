import Wiretap.Proofs.Exchange.Records

/-!
# Dumping does not disturb an exchange

What is written goes to hooks and outputs, and nothing of an exchange is read
from there again.  So the result, the requests that are sent and the cookies that
are kept do not depend on whether there is a hook, on its options, or on what
becomes of the records.

* `Exchange.contacts_dumpAll` and `Exchange.jars_dumpAll` say what writing leaves alone.
* `Exchange.run_agrees_without_hook` compares an exchange with the same one without a
  hook.
-/

namespace Wiretap
namespace Exchange

section Writing

variable (policy : Option Session.Policy) (records : Dump.Flags → List Bytes) (session : Session)

/-- What no record changes is left alone by all of them. -/
theorem dumpAll_keeps {α : Type} (look : Session → α)
    (h : ∀ (session : Session) hook options record,
      look (session.dump hook options record) = look session) :
    look (dumpAll policy records session) = look session := by
  cases policy with
  | none => rfl
  | some policy =>
      obtain ⟨hook, options⟩ := policy
      unfold dumpAll
      dsimp only
      generalize records options.flags = list
      induction list generalizing session with
      | nil => rfl
      | cons record rest ih => exact (ih _).trans (h session hook options record)

@[simp]
theorem contacts_dumpAll : (dumpAll policy records session).contacts = session.contacts :=
  dumpAll_keeps policy records session Session.contacts fun session hook _ _ =>
    session.contacts_onHook hook _

@[simp]
theorem jars_dumpAll : (dumpAll policy records session).jars = session.jars :=
  dumpAll_keeps policy records session Session.jars fun session hook _ _ =>
    session.jars_onHook hook _

@[simp]
theorem jar?_dumpAll (number : Option Nat) :
    (dumpAll policy records session).jar? number = session.jar? number := by
  simp only [Session.jar?, jars_dumpAll]

end Writing

/-- Which jars there are after one of them has been replaced depends on the jars before. -/
theorem jars_setJar_congr {left right : Session} (h : left.jars = right.jars)
    (number : Option Nat) (jar : Option Cookie.Jar) :
    (left.setJar number jar).jars = (right.setJar number jar).jars := by
  cases number with
  | none => exact h
  | some number =>
      cases jar with
      | none => exact h
      | some jar =>
          show left.jars.set number jar = right.jars.set number jar
          rw [h]

/-- What an exchange gives, sends and keeps depends on what has been sent and on the jars, and on
nothing that concerns dumping. -/
theorem perform_agrees {left right : Session} (hContacts : left.contacts = right.contacts)
    (hJars : left.jars = right.jars) (around : Surroundings) (pool : Pool)
    (treatment : Treatment) (policy policy' : Option Session.Policy) (request : Request) :
    let first := perform around pool treatment policy request left
    let second := perform around pool treatment policy' request right
    first.1 = second.1 ∧ first.2.contacts = second.2.contacts ∧ first.2.jars = second.2.jars := by
  have hJar : left.jar? pool.jar = right.jar? pool.jar := by
    simp only [Session.jar?, hJars]
  dsimp only
  rw [perform_eq, perform_eq]
  simp only [jar?_dumpAll, contacts_dumpAll, jars_dumpAll, afterFetch, hJar, hContacts]
  refine ⟨trivial, trivial, ?_⟩
  apply jars_setJar_congr
  rw [jars_dumpAll, jars_dumpAll, hJars]

/-- An exchange with a hook gives the same result as without one, sends the same requests and
leaves the same cookies, whatever the options of the hook are, whatever it still has to write and
whatever the outputs do with it. -/
theorem run_agrees_without_hook (around : Surroundings) (handle : Transport.Handle)
    (request : Request) (session : Session) (outputs : Dump.Outputs)
    (cells : List (Option Dump.Options)) (hooks : List Dump.Hook) :
    let dumping :=
      run around handle request
        { session with outputs := outputs, cells := cells, hooks := hooks }
    let plain := run around { handle with hook := none } request session
    dumping.1 = plain.1 ∧ dumping.2.contacts = plain.2.contacts ∧
      dumping.2.jars = plain.2.jars := by
  unfold run
  apply perform_agrees
  · rfl
  · rfl

end Exchange
end Wiretap
