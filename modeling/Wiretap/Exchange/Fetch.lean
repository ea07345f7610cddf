import Wiretap.Exchange.Redirect
import Wiretap.Failure
import Wiretap.Session

/-!
# Fetching a response

A request is sent, and sent on as long as responses ask for it.  Each time it
carries the cookies of the jar, and the jar takes the cookies of the response.  This
is what `round_trip` leaves to the pool (`execute`).

* `Request.dressed` is a request with what is added to it before it is sent.
* `fetch` gives the last response, the jar, and all that has been sent.
* `Halt.failure` (`transport_error`) is what the caller is told if there is no response.
-/

namespace Wiretap

/-- Why no response, or no whole one, has come. -/
structure Halt where
  /-- The cause. -/
  fault : TransportFault
  /-- Whether it would have come if there had been more time. -/
  isLate : Bool
deriving DecidableEq

/-- The failure to which a cause leads, given the bound on time. -/
def Halt.failure (halt : Halt) (timeout : Option Duration) : Failure :=
  match timeout with
  | some limit => if halt.isLate then .timeout limit else .transport halt.fault
  | none => .transport halt.fault

/-- What a fetch gives. -/
structure Fetched where
  /-- The last response with the address that gave it. -/
  outcome : Except Halt (Url × Arrival)
  /-- The jar. -/
  jar : Option Cookie.Jar
  /-- All that has been sent, latest last. -/
  contacts : List Contact

/-- Adds a header unless its name occurs. -/
def Header.Map.offer (headers : Header.Map) (name : Header.Name) (value : Header.Value) :
    Header.Map :=
  if headers.contains name then headers else headers.insert name value

/-- A request as it is sent: it accepts anything, and carries cookies unless it has its own. -/
def Request.dressed (request : Request) (cookies : Option Header.Value) : Request :=
  let headers := request.headers.offer .accept (.known "*/*")
  let headers :=
    if headers.contains .range then headers
    else headers.offer .acceptEncoding (.known "gzip")
  let headers :=
    match cookies with
    | some value => headers.offer .cookie value
    | none => headers
  { request with headers := headers }

/-- What a jar gives to a request. -/
def Surroundings.cookiesFor (around : Surroundings) (jar : Option Cookie.Jar) (url : Url) :
    Option Header.Value :=
  jar.bind fun jar => jar.carried? url around.now

/-- A jar after a response. -/
def Surroundings.keepCookies (around : Surroundings) (jar : Option Cookie.Jar) (url : Url)
    (arrival : Arrival) : Option Cookie.Jar :=
  jar.map fun jar =>
    jar.addAll around.suffixes around.now (arrival.headers.getAll .setCookie) url

/-- Sends a request, and follows at most a number of redirects. -/
def fetchWithin (around : Surroundings) (route : Config.Proxy) :
    Nat → Request → Option Cookie.Jar → List Contact → Fetched
  | hops, request, jar, contacts =>
    if !request.isSendable then ⟨.error ⟨.unsupported request.url, false⟩, jar, contacts⟩
    else if !request.isSpoken then ⟨.error ⟨.unanswered request.url, false⟩, jar, contacts⟩
    else
      let sent := request.dressed (around.cookiesFor jar request.url)
      let reply := around.network contacts route sent
      let contacts := contacts ++ [⟨route, sent, reply⟩]
      match reply with
      | .refused => ⟨.error ⟨.unanswered request.url, false⟩, jar, contacts⟩
      | .silent => ⟨.error ⟨.unanswered request.url, true⟩, jar, contacts⟩
      | .answer arrival =>
        -- The cookies of a redirect go with the request that follows it.
        let jar := around.keepCookies jar request.url arrival
        match request.next? arrival, hops with
        | none, _ => ⟨.ok (request.url, arrival), jar, contacts⟩
        | some _, 0 => ⟨.error ⟨.redirects request.url, false⟩, jar, contacts⟩
        | some next, hops + 1 => fetchWithin around route hops next jar contacts

/-- Sends a request and follows redirects. -/
def fetch (around : Surroundings) (route : Config.Proxy) (request : Request)
    (jar : Option Cookie.Jar) (contacts : List Contact) : Fetched :=
  fetchWithin around route Redirect.limit request jar contacts

/-- An answer that asks for no further request ends the fetch. -/
theorem outcome_fetch_of_answer {around : Surroundings} {route : Config.Proxy}
    {request : Request} {jar : Option Cookie.Jar} {contacts : List Contact} {arrival : Arrival}
    (hSendable : request.isSendable = true) (hSpoken : request.isSpoken = true)
    (hReply : around.network contacts route
      (request.dressed (around.cookiesFor jar request.url)) = .answer arrival)
    (hNext : request.next? arrival = none) :
    (fetch around route request jar contacts).outcome = .ok (request.url, arrival) := by
  unfold fetch fetchWithin
  simp only [hSendable, hSpoken, Bool.not_true, Bool.false_eq_true, if_false, hReply, hNext]

end Wiretap
