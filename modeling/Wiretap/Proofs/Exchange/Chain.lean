import Wiretap.Proofs.Exchange.Transparency

/-!
# What a request leads to

A request that is sent may be followed by others, one for each redirect.  Given what
comes back, all of them follow from the request and from the cookies that are added
on the way.

* `Exchange.Leads` says that requests have been sent on account of one.
* `Exchange.opening?` is what is sent first, if the request can be sent at all.
* `Exchange.leads_perform` says that an exchange sends such requests only, and that one first.
-/

namespace Wiretap
namespace Exchange

/-- Requests have been sent on account of one: that one, with no more added to it than what every
request is dressed with, and then, as long as the answers ask for it, the request that follows from
the answer to the one before. -/
inductive Leads (route : Config.Proxy) : Request → List Contact → Prop
  | unsent (request : Request) : Leads route request []
  | last (request : Request) (cookies : Option Header.Value) (reply : Reply) :
      Leads route request [⟨route, request.dressed cookies, reply⟩]
  | next {request following : Request} {arrival : Arrival} {rest : List Contact}
      (cookies : Option Header.Value) (hNext : request.next? arrival = some following)
      (hRest : Leads route following rest) :
      Leads route request (⟨route, request.dressed cookies, .answer arrival⟩ :: rest)

/-- What is sent first on account of a request: the request as it is dressed with the cookies that
its address calls for now, unless it is one that cannot be sent. -/
def opening? (around : Surroundings) (route : Config.Proxy) (request : Request)
    (jar : Option Cookie.Jar) (contacts : List Contact) : Option Contact :=
  if request.isSendable && request.isSpoken then
    let sent := request.dressed (around.cookiesFor jar request.url)
    some ⟨route, sent, around.network contacts route sent⟩
  else none

theorem opening?_of_isSpoken {around : Surroundings} {route : Config.Proxy} {request : Request}
    {jar : Option Cookie.Jar} {contacts : List Contact} (hSendable : ¬(!request.isSendable) = true)
    (hSpoken : ¬(!request.isSpoken) = true) :
    let sent := request.dressed (around.cookiesFor jar request.url)
    opening? around route request jar contacts =
      some ⟨route, sent, around.network contacts route sent⟩ := by
  simp_all [opening?]

theorem leads_fetchWithin (around : Surroundings) (route : Config.Proxy) (hops : Nat)
    (request : Request) (jar : Option Cookie.Jar) (contacts : List Contact) :
    ∃ sent, (fetchWithin around route hops request jar contacts).contacts = contacts ++ sent ∧
      Leads route request sent ∧ sent.head? = opening? around route request jar contacts := by
  fun_induction fetchWithin around route hops request jar contacts with
  | case1 hops request jar contacts hSendable =>
      exact ⟨[], (List.append_nil _).symm, .unsent _, by simp_all [opening?]⟩
  | case2 hops request jar contacts hSendable hSpoken =>
      exact ⟨[], (List.append_nil _).symm, .unsent _, by simp_all [opening?]⟩
  | case3 hops request jar contacts hSendable hSpoken =>
      exact ⟨[_], rfl, .last request _ _, (opening?_of_isSpoken hSendable hSpoken).symm⟩
  | case4 hops request jar contacts hSendable hSpoken =>
      exact ⟨[_], rfl, .last request _ _, (opening?_of_isSpoken hSendable hSpoken).symm⟩
  | case5 hops request jar contacts hSendable hSpoken =>
      exact ⟨[_], rfl, .last request _ _, (opening?_of_isSpoken hSendable hSpoken).symm⟩
  | case6 request jar contacts hSendable hSpoken =>
      exact ⟨[_], rfl, .last request _ _, (opening?_of_isSpoken hSendable hSpoken).symm⟩
  | case7 request jar contacts hSendable hSpoken sent reply contacts' arrival hReply jar' following
      hops hNext ih =>
      obtain ⟨rest, hRest, hLeads, -⟩ := ih
      refine ⟨⟨route, sent, reply⟩ :: rest, ?_, ?_, (opening?_of_isSpoken hSendable hSpoken).symm⟩
      · rw [hRest, List.append_assoc]
        rfl
      · rw [hReply]
        exact .next _ hNext hLeads

/-- An exchange sends its request, and what follows from it, by the policy on proxies of its
pool. -/
theorem leads_perform (around : Surroundings) (pool : Pool) (treatment : Treatment)
    (policy : Option Session.Policy) (request : Request) (session : Session) :
    ∃ sent, (perform around pool treatment policy request session).2.contacts =
      session.contacts ++ sent ∧ Leads pool.config.proxy request sent ∧
        sent.head? = opening? around pool.config.proxy request (session.jar? pool.jar)
          session.contacts := by
  rw [perform_eq]
  dsimp only
  rw [contacts_dumpAll, contacts_dumpAll, jar?_dumpAll]
  exact leads_fetchWithin around pool.config.proxy Redirect.limit request _ session.contacts

end Exchange
end Wiretap
