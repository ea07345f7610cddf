import Wiretap.Draft
import Wiretap.Proofs.Exchange.Records
import Wiretap.Proofs.Session.Confined

/-!
# What an exchange changes in a session

An exchange writes records, keeps cookies and adds to what has been sent.  It
changes the options of no cell, so clients are as they were after it.

* `Exchange.confined_run` and `Draft.confined_send` say so.
-/

namespace Wiretap
namespace Exchange

theorem confined_dumpAll (policy : Option Session.Policy) (records : Dump.Flags → List Bytes)
    (session : Session) : Session.Confined none session (dumpAll policy records session) := by
  cases policy with
  | none => exact .refl none session
  | some policy =>
      obtain ⟨hook, options⟩ := policy
      unfold dumpAll
      dsimp only
      generalize records options.flags = list
      induction list generalizing session with
      | nil => exact .refl none session
      | cons record rest ih => exact (session.confined_dump hook options record).trans (ih _)

theorem confined_afterFetch (policy : Option Session.Policy) (session : Session) (pool : Pool)
    (request : Request) (fetched : Fetched) :
    Session.Confined none session (afterFetch policy session pool request fetched) := by
  have hWritten := confined_dumpAll policy (fun flags => requestRecords flags request) session
  have hJar := (dumpAll policy (fun flags => requestRecords flags request) session).confined_setJar
    pool.jar fetched.jar
  -- What has been sent is no part of what is confined.
  exact { hWritten.trans hJar with }

theorem confined_perform (around : Surroundings) (pool : Pool) (treatment : Treatment)
    (policy : Option Session.Policy) (request : Request) (session : Session) :
    Session.Confined none session
      (perform around pool treatment policy request session).2 := by
  rw [perform_eq]
  dsimp only
  exact (confined_afterFetch policy session pool request _).trans (confined_dumpAll policy _ _)

theorem confined_run (around : Surroundings) (handle : Transport.Handle) (request : Request)
    (session : Session) : Session.Confined none session (run around handle request session).2 :=
  confined_perform around handle.pool handle.treatment _ request session

end Exchange

theorem Draft.confined_send (around : Surroundings) (draft : Draft) (session : Session) :
    Session.Confined none session (draft.send around session).2 := by
  unfold send
  split
  · exact .refl none session
  next request _ => exact Exchange.confined_run around draft.handle request session

end Wiretap
