import Mathlib.Data.List.Nodup
import Wiretap.Proofs.Cookie.Carriage

/-!
# What an offer changes in a jar

A jar takes an offer or refuses it.  What it takes concerns one key: the cookie of that key
is replaced, or taken away by one that has expired, and no other cookie is touched.  What
it refuses changes nothing, so a list of offers comes to those that are taken.

* `Jar.Takes` says when there is a place for a cookie, and `Jar.updated` what becomes of
  the jar then.  `Jar.add?_eq_some_iff` says that nothing else can come of an offer.
* `Jar.nodup_keys_callAll` is the invariant: no jar ever holds two cookies of one key.
* `Jar.Framed` says what an offer does to the cookies and to the requests that carry them.
* `Jar.offers_are_framed` is the statement for every jar that calls lead to.
-/

namespace Wiretap
namespace Cookie
namespace Jar

/-- Whether there is a place for a cookie that a response from an address sets: a cookie that is
kept from scripts gives way to the protocol only, and one that has expired must find one to take
away. -/
def Takes (jar : Jar) (cookie : Cookie) (url : Url) (now : Int) : Prop :=
  (∀ old, jar.find? cookie.key now = some old → old.httpOnly = true → isHttp url = true) ∧
    (cookie.isExpired now = true → (jar.find? cookie.key now).isSome = true)

/-- A jar with a cookie that it has taken. -/
def updated (jar : Jar) (cookie : Cookie) (now : Int) : Jar :=
  if cookie.isExpired now then jar.erase cookie.key else jar.put cookie

/-- The cookies of other keys that belong to a request. -/
def matchingBeside (jar : Jar) (key : String × String × String) (url : Url) (now : Int) :
    List Cookie :=
  (jar.matching url now).filter fun other => other.key ≠ key

variable {suffixes : Suffixes} {jar next : Jar} {cookie : Cookie} {offer : Offer} {now : Int}

/-- A cookie that has been narrowed and covers its host is taken if there is a place for it. -/
theorem insert?_eq_some_iff {read : Cookie} {url : Url} :
    jar.insert? suffixes now read url = some next ↔
      ∃ cookie, narrow? suffixes read url = some cookie ∧
        cookie.scope.covers url.hostText? = true ∧ jar.Takes cookie url now ∧
          next = jar.updated cookie now := by
  rw [insert?, Option.bind_eq_bind, Option.bind_eq_some_iff]
  refine exists_congr fun cookie => and_congr_right fun _ => ?_
  cases hCovers : cookie.scope.covers url.hostText? with
  | false => simp
  | true =>
      rw [if_pos rfl, eq_self, true_and, @eq_comm _ next, Takes, updated]
      cases hFound : jar.find? cookie.key now with
      | none => cases cookie.isExpired now <;> simp
      | some old =>
          cases hOld : old.httpOnly <;> cases isHttp url <;> cases cookie.isExpired now <;>
            simp [hOld]

/-- All that can come of an offer: the cookie that is made of it finds its place. -/
theorem add?_eq_some_iff :
    jar.add? suffixes offer.now offer.text offer.url = some next ↔
      ∃ cookie, offer.cookie? suffixes = some cookie ∧ jar.Takes cookie offer.url offer.now ∧
        next = jar.updated cookie offer.now := by
  unfold add? Offer.cookie?
  simp only [Option.bind_eq_bind, Option.bind_eq_some_iff, insert?_eq_some_iff]
  constructor
  · rintro ⟨read, hRead, cookie, hNarrow, hCovers, hTakes, rfl⟩
    exact ⟨cookie, ⟨read, hRead, cookie, hNarrow, if_pos hCovers⟩, hTakes, rfl⟩
  · rintro ⟨cookie, ⟨read, hRead, narrowed, hNarrow, hKept⟩, hTakes, rfl⟩
    split at hKept
    next hCovers =>
      cases hKept
      exact ⟨read, hRead, cookie, hNarrow, hCovers, hTakes, rfl⟩
    next => cases hKept

section Updated

variable (jar : Jar) (cookie : Cookie) (now : Int)

/-- Taking a cookie leaves the cookies of other keys as they are. -/
theorem erase_updated : (jar.updated cookie now).erase cookie.key = jar.erase cookie.key := by
  unfold updated put erase
  split <;> simp

theorem filter_updated :
    (jar.updated cookie now).cookies.filter (fun other => other.key = cookie.key) =
      if cookie.isExpired now then [] else [cookie] := by
  unfold updated put erase
  split <;> simp [List.filter_filter]

theorem matchingBeside_eq (key : String × String × String) (url : Url) (time : Int) :
    jar.matchingBeside key url time = (jar.erase key).matching url time := by
  rw [matchingBeside, matching, erase, matching, List.filter_comm]

/-- A request carries what it carried of other keys, and the cookie behind it. -/
theorem matching_updated (url : Url) (time : Int) :
    (jar.updated cookie now).matching url time =
      jar.matchingBeside cookie.key url time ++
        if cookie.isExpired now then [] else matching ⟨[cookie]⟩ url time := by
  rw [matchingBeside_eq]
  unfold updated
  split
  · rw [List.append_nil]
  · exact List.filter_append ..

variable {jar}

theorem nodup_keys_updated (h : (jar.cookies.map key).Nodup) :
    ((jar.updated cookie now).cookies.map key).Nodup := by
  have hErase : ((jar.erase cookie.key).cookies.map key).Nodup :=
    (List.filter_sublist.map key).nodup h
  unfold updated
  split
  · exact hErase
  · rw [put, List.map_append, List.nodup_append]
    refine ⟨hErase, List.nodup_singleton _, ?_⟩
    intro found hFound other hOther
    obtain ⟨kept, hKept, rfl⟩ := List.mem_map.mp hFound
    rw [List.map_singleton, List.mem_singleton] at hOther
    rw [hOther]
    simpa using (List.mem_filter.mp hKept).2

end Updated

/-- An offer that is taken has been made into a cookie, and the jar has been updated by that. -/
theorem take_of_taken (h : (jar.add suffixes offer.now offer.text offer.url).2 = true) :
    ∃ cookie, offer.cookie? suffixes = some cookie ∧ jar.Takes cookie offer.url offer.now ∧
      jar.take suffixes offer = jar.updated cookie offer.now := by
  unfold take
  unfold add at h ⊢
  split at h
  next next hNext =>
    obtain ⟨cookie, hCookie, hTakes, rfl⟩ := add?_eq_some_iff.mp hNext
    exact ⟨cookie, hCookie, hTakes, rfl⟩
  next => cases h

theorem take_of_refused (h : (jar.add suffixes offer.now offer.text offer.url).2 = false) :
    jar.take suffixes offer = jar :=
  add_eq_self_of_refused h

theorem taken_iff :
    (jar.add suffixes offer.now offer.text offer.url).2 = true ↔
      ∃ cookie, offer.cookie? suffixes = some cookie ∧ jar.Takes cookie offer.url offer.now := by
  constructor
  · intro h
    obtain ⟨cookie, hCookie, hTakes, -⟩ := take_of_taken h
    exact ⟨cookie, hCookie, hTakes⟩
  · rintro ⟨cookie, hCookie, hTakes⟩
    rw [add, add?_eq_some_iff.mpr ⟨cookie, hCookie, hTakes, rfl⟩]

theorem nodup_keys_take (h : (jar.cookies.map key).Nodup) (offer : Offer) :
    ((jar.take suffixes offer).cookies.map key).Nodup := by
  cases hTaken : (jar.add suffixes offer.now offer.text offer.url).2 with
  | true =>
      obtain ⟨cookie, -, -, hTake⟩ := take_of_taken hTaken
      rw [hTake]
      exact nodup_keys_updated cookie offer.now h
  | false => rwa [take_of_refused hTaken]

theorem nodup_keys_takeAll (h : (jar.cookies.map key).Nodup) (offers : List Offer) :
    ((jar.takeAll suffixes offers).cookies.map key).Nodup := by
  induction offers generalizing jar with
  | nil => exact h
  | cons offer rest ih => exact ih (nodup_keys_take h offer)

/-- No jar that calls lead to holds two cookies of one key. -/
theorem nodup_keys_callAll (suffixes : Suffixes) (calls : List Call) :
    ((empty.callAll suffixes calls).cookies.map key).Nodup := by
  have hEmpty : (empty.cookies.map key).Nodup := List.nodup_nil
  rw [callAll_eq_takeAll]
  exact nodup_keys_takeAll hEmpty _

/-- Header values come to the texts among them, added one after the other. -/
theorem addAll_eq_callAll (values : List Header.Value) (url : Url) :
    jar.addAll suffixes now values url =
      jar.callAll suffixes
        ((values.filterMap fun value => Utf8.text? value.bytes).map fun text =>
          .add text url now) := by
  have hOffers : jar.addAll suffixes now values url =
      jar.takeAll suffixes (Call.addAll values url now).offers :=
    call_eq_takeAll (.addAll values url now)
  rw [hOffers, callAll_eq_takeAll, List.flatMap_map]
  exact congrArg (jar.takeAll suffixes) List.map_eq_flatMap

theorem addAll_append (first second : List Header.Value) (url : Url) :
    jar.addAll suffixes now (first ++ second) url =
      (jar.addAll suffixes now first url).addAll suffixes now second url := by
  simp [addAll]

/-- A header value that is no text, or one whose text is refused, makes no difference. -/
theorem addAll_cons_of_refused {value : Header.Value} {url : Url}
    (h : ∀ text, Utf8.text? value.bytes = some text →
      (jar.add suffixes now text url).2 = false) (rest : List Header.Value) :
    jar.addAll suffixes now (value :: rest) url = jar.addAll suffixes now rest url := by
  unfold addAll
  rw [List.foldl_cons]
  cases hText : Utf8.text? value.bytes with
  | none => rfl
  | some text =>
      dsimp only
      rw [add_eq_self_of_refused (h text hText)]

/-- What a jar is to another one that has taken a cookie. -/
structure Changed (jar next : Jar) (cookie : Cookie) (now : Int) : Prop where
  /-- Cookies of other keys are as they were. -/
  others : next.erase cookie.key = jar.erase cookie.key
  /-- Of its own key there is the cookie alone, or nothing if it has expired. -/
  entry : next.cookies.filter (fun other => other.key = cookie.key) =
    if cookie.isExpired now then [] else [cookie]
  /-- Cookies of other keys belong to the requests that they belonged to. -/
  beside : ∀ url time, next.matchingBeside cookie.key url time =
    jar.matchingBeside cookie.key url time
  /-- Besides these, a request carries the cookie, if it belongs to it. -/
  requests : ∀ url time, next.matching url time =
    jar.matchingBeside cookie.key url time ++
      if cookie.isExpired now then [] else matching ⟨[cookie]⟩ url time

theorem changed_updated (jar : Jar) (cookie : Cookie) (now : Int) :
    jar.Changed (jar.updated cookie now) cookie now where
  others := jar.erase_updated cookie now
  entry := jar.filter_updated cookie now
  beside url time := by rw [matchingBeside_eq, matchingBeside_eq, erase_updated]
  requests := jar.matching_updated cookie now

/-- What an offer does to a jar. -/
structure Framed (suffixes : Suffixes) (jar : Jar) (offer : Offer) : Prop where
  /-- It is taken exactly if a cookie can be made of it and there is a place for that. -/
  taken_iff : (jar.add suffixes offer.now offer.text offer.url).2 = true ↔
    ∃ cookie, offer.cookie? suffixes = some cookie ∧ jar.Takes cookie offer.url offer.now
  /-- If it is refused, every request has the same text of cookies as before. -/
  refused : (jar.add suffixes offer.now offer.text offer.url).2 = false → ∀ url time,
    (jar.add suffixes offer.now offer.text offer.url).1.header? url time = jar.header? url time
  /-- If it is taken, nothing but the cookie of its key has changed. -/
  taken : (jar.add suffixes offer.now offer.text offer.url).2 = true →
    ∃ cookie, offer.cookie? suffixes = some cookie ∧
      jar.Changed (jar.add suffixes offer.now offer.text offer.url).1 cookie offer.now

theorem framed (suffixes : Suffixes) (jar : Jar) (offer : Offer) : jar.Framed suffixes offer where
  taken_iff := taken_iff
  refused h url time := by rw [add_eq_self_of_refused h]
  taken h := by
    obtain ⟨cookie, hCookie, -, hTake⟩ := take_of_taken h
    refine ⟨cookie, hCookie, ?_⟩
    rw [show (jar.add suffixes offer.now offer.text offer.url).1 = _ from hTake]
    exact jar.changed_updated cookie offer.now

/-- In every jar that calls lead to, no key comes twice, and every offer is refused without a
trace or concerns the cookie of its key alone.  Header values have the effect of adding the texts
among them in order; one that is no text or that is refused might as well not have been there. -/
theorem offers_are_framed (suffixes : Suffixes) (calls : List Call) :
    let jar := empty.callAll suffixes calls
    (jar.cookies.map key).Nodup ∧
      (∀ offer, jar.Framed suffixes offer) ∧
      ∀ values url now,
        jar.addAll suffixes now values url =
            jar.callAll suffixes
              ((values.filterMap fun value => Utf8.text? value.bytes).map fun text =>
                .add text url now) ∧
          ∀ front value back, values = front ++ value :: back →
            (∀ text, Utf8.text? value.bytes = some text →
              ((jar.addAll suffixes now front url).add suffixes now text url).2 = false) →
            jar.addAll suffixes now values url =
              jar.addAll suffixes now (front ++ back) url := by
  intro jar
  refine ⟨nodup_keys_callAll suffixes calls, framed suffixes jar, fun values url now => ⟨?_, ?_⟩⟩
  · exact addAll_eq_callAll values url
  · rintro front value back rfl hRefused
    rw [addAll_append, addAll_append, addAll_cons_of_refused hRefused]

/-- What is offered for a domain that no rule lists is made into a cookie as it is read. -/
theorem cookie?_of_unlisted (hPublic : suffixes.isPublic cookie.scope.name = false)
    (hRead : ofText? offer.text offer.url offer.now = some cookie)
    (hCovers : cookie.scope.covers offer.url.hostText? = true) :
    offer.cookie? suffixes = some cookie := by
  simp [Offer.cookie?, hRead, narrow?_of_unlisted offer.url hPublic, hCovers]

/-- What cannot be read is refused. -/
theorem add_of_unread {text : String} {url : Url} (h : ofText? text url now = none) :
    (jar.add suffixes now text url).2 = false := by
  rw [add, add?, h, Option.bind_none]

/-- The cookie that takes the place of the one that is there. -/
def laterCookie : Cookie := ⟨"a", "2", .host "rit.edu", "/", false, false, none⟩

/-- One cookie takes the place of another, and a text without an equals sign does nothing, alone or
in front of the cookie. -/
theorem offers_are_framed_of_replaced :
    let jar := empty.callAll .standard (brokenCalls.take 1)
    (jar.add .standard 0 "a=2" (site "rit.edu")).2 = true ∧
      (jar.add .standard 0 "a=2" (site "rit.edu")).1.matching (site "rit.edu") 0 = [laterCookie] ∧
      (jar.add .standard 0 "a" (site "rit.edu")).2 = false ∧
      (jar.add .standard 0 "a" (site "rit.edu")).1.header? (site "rit.edu") 0 = some "a=1" ∧
      jar.addAll .standard 0 [.known "a", .known "a=2"] (site "rit.edu") =
        jar.addAll .standard 0 [.known "a=2"] (site "rit.edu") := by
  have hAll := offers_are_framed .standard (brokenCalls.take 1)
  rw [callAll_soundCookie isPublic_rit] at hAll ⊢
  obtain ⟨-, hFramed, hValues⟩ := hAll
  have hRead : ofText? "a=2" (site "rit.edu") 0 = some laterCookie := by decide
  have hCookie : (⟨"a=2", site "rit.edu", 0⟩ : Offer).cookie? .standard = some laterCookie :=
    cookie?_of_unlisted isPublic_rit hRead (by decide)
  have hTakes : Takes ⟨[soundCookie]⟩ laterCookie (site "rit.edu") 0 :=
    ⟨fun _ _ _ => by decide, fun hExpired => absurd hExpired (by decide)⟩
  have hTaken := (hFramed ⟨"a=2", site "rit.edu", 0⟩).taken_iff.mpr ⟨_, hCookie, hTakes⟩
  have hRefused : (add .standard 0 ⟨[soundCookie]⟩ "a" (site "rit.edu")).2 = false :=
    add_of_unread (by decide)
  refine ⟨hTaken, ?_, hRefused, ?_, ?_⟩
  · obtain ⟨cookie, hMade, hChanged⟩ := (hFramed ⟨"a=2", site "rit.edu", 0⟩).taken hTaken
    obtain rfl : laterCookie = cookie := Option.some.inj (hCookie.symm.trans hMade)
    exact (hChanged.requests (site "rit.edu") 0).trans (by decide)
  · exact ((hFramed ⟨"a", site "rit.edu", 0⟩).refused hRefused _ _).trans (by decide)
  · refine (hValues _ _ 0).2 [] (.known "a") [.known "a=2"] rfl fun text hText => ?_
    have hSame : Utf8.text? (Header.Value.known "a").bytes = some "a" := by decide
    obtain rfl : "a" = text := Option.some.inj (hSame.symm.trans hText)
    exact hRefused

end Jar
end Cookie
end Wiretap
