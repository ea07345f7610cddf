import Wiretap.Cookie.Jar
import Wiretap.Proofs.Cookie.Listing

/-!
# Isolation of sites

What a jar gives to a request was put into it by a response from the same host, or it was
offered for a domain that both hosts belong to and that no rule lists.

* `Cookie.Offer` is one cookie that a response offers, and `Offer.cookie?` is what a jar
  makes of it, whatever else the jar holds.
* `Jar.Call` is a call on a jar.  Calls come down to offers, one after the other.
* `Jar.origin_of_mem` finds the offer that a cookie in a jar comes from.
* `Jar.matching_isolated` is the statement for a whole sequence of calls.
* `Jar.shared_below_listed` shows two sites under one listed suffix that share a cookie: it
  was offered for a shorter ending of that suffix, which no rule lists.
-/

namespace Wiretap
namespace Cookie

/-- A cookie that a response from an address offers at some time. -/
structure Offer where
  /-- The text of the cookie. -/
  text : String
  /-- The address. -/
  url : Url
  /-- The moment. -/
  now : Int

namespace Offer

/-- The cookie that a jar makes of an offer, unless it refuses it whatever it holds. -/
def cookie? (suffixes : Suffixes) (offer : Offer) : Option Cookie := do
  let cookie ← ofText? offer.text offer.url offer.now
  let cookie ← Jar.narrow? suffixes cookie offer.url
  if cookie.scope.covers offer.url.hostText? then some cookie else none

/-- The domain that an offer names: without a dot in front, and in ASCII. -/
def domain? (offer : Offer) : Option String := do
  let attributes ← Attributes.ofText? offer.text
  let raw ← attributes.domain
  asciiName? raw

end Offer

namespace Jar

/-- A call on a jar. -/
inductive Call where
  /-- Takes the cookie of a text. -/
  | add (text : String) (url : Url) (now : Int)
  /-- Takes the cookies of header values. -/
  | addAll (values : List Header.Value) (url : Url) (now : Int)

/-- The offers that a call consists of. -/
def Call.offers : Call → List Offer
  | .add text url now => [⟨text, url, now⟩]
  | .addAll values url now =>
    (values.filterMap fun value => Utf8.text? value.bytes).map fun text => ⟨text, url, now⟩

/-- Makes a call. -/
def call (suffixes : Suffixes) (jar : Jar) : Call → Jar
  | .add text url now => (jar.add suffixes now text url).1
  | .addAll values url now => jar.addAll suffixes now values url

/-- Makes calls in order. -/
def callAll (suffixes : Suffixes) (jar : Jar) (calls : List Call) : Jar :=
  calls.foldl (call suffixes) jar

/-- Takes an offer, or refuses it. -/
def take (suffixes : Suffixes) (jar : Jar) (offer : Offer) : Jar :=
  (jar.add suffixes offer.now offer.text offer.url).1

/-- Takes offers in order. -/
def takeAll (suffixes : Suffixes) (jar : Jar) (offers : List Offer) : Jar :=
  offers.foldl (take suffixes) jar

variable {suffixes : Suffixes} {jar : Jar}

theorem takeAll_append (first second : List Offer) :
    jar.takeAll suffixes (first ++ second) =
      (jar.takeAll suffixes first).takeAll suffixes second := by
  simp [takeAll]

theorem call_eq_takeAll (c : Call) : jar.call suffixes c = jar.takeAll suffixes c.offers := by
  cases c with
  | add text url now => rfl
  | addAll values url now =>
      show jar.addAll suffixes now values url = _
      unfold addAll
      induction values generalizing jar with
      | nil => rfl
      | cons value rest ih =>
          rw [List.foldl_cons, ih]
          cases hText : Utf8.text? value.bytes <;> simp [Call.offers, takeAll, take, hText]

/-- Calls come down to their offers. -/
theorem callAll_eq_takeAll (calls : List Call) :
    jar.callAll suffixes calls = jar.takeAll suffixes (calls.flatMap Call.offers) := by
  induction calls generalizing jar with
  | nil => rfl
  | cons c rest ih =>
      rw [List.flatMap_cons, takeAll_append, ← call_eq_takeAll]
      exact ih

theorem mem_put {cookie other : Cookie} (h : other ∈ (jar.put cookie).cookies) :
    other ∈ jar.cookies ∨ other = cookie := by
  unfold put erase at h
  rw [List.mem_append, List.mem_filter, List.mem_singleton] at h
  exact h.imp_left And.left

/-- A cookie is stored as it has been narrowed, for a domain that the host belongs to. -/
theorem mem_insert? {now : Int} {next : Jar} {read other : Cookie} {url : Url}
    (h : jar.insert? suffixes now read url = some next) (hOther : other ∈ next.cookies) :
    other ∈ jar.cookies ∨
      narrow? suffixes read url = some other ∧ other.scope.covers url.hostText? = true := by
  obtain ⟨narrowed, hNarrow, hStored⟩ := Option.bind_eq_some_iff.mp h
  split at hStored
  next hCovers =>
    have hPut (hNext : some (jar.put narrowed) = some next) :
        other ∈ jar.cookies ∨ narrow? suffixes read url = some other ∧
          other.scope.covers url.hostText? = true := by
      cases hNext
      rcases mem_put hOther with hOld | rfl
      · exact .inl hOld
      · exact .inr ⟨hNarrow, hCovers⟩
    split at hStored
    · split at hStored
      · cases hStored
      split at hStored
      · cases hStored
        exact .inl (List.mem_filter.mp hOther).1
      · exact hPut hStored
    · split at hStored
      · cases hStored
      · exact hPut hStored
  next => cases hStored

/-- What is in a jar after an offer was there before or is what the jar has made of the offer. -/
theorem mem_take {offer : Offer} {cookie : Cookie}
    (h : cookie ∈ (jar.take suffixes offer).cookies) :
    cookie ∈ jar.cookies ∨ offer.cookie? suffixes = some cookie := by
  unfold take add add? at h
  split at h
  next next hNext =>
    obtain ⟨read, hRead, hInsert⟩ := Option.bind_eq_some_iff.mp hNext
    refine (mem_insert? hInsert h).imp_right fun ⟨hNarrow, hCovers⟩ => ?_
    simp [Offer.cookie?, hRead, hNarrow, hCovers]
  next => exact .inl h

/-- A cookie in a jar comes from an offer, and has been there ever since. -/
theorem origin_of_mem {offers : List Offer} {cookie : Cookie}
    (h : cookie ∈ (empty.takeAll suffixes offers).cookies) :
    ∃ earlier offer later, offers = earlier ++ offer :: later ∧
      offer.cookie? suffixes = some cookie ∧
      ∀ since, since <+: later →
        cookie ∈ (empty.takeAll suffixes (earlier ++ offer :: since)).cookies := by
  induction offers using List.reverseRecOn with
  | nil => cases h
  | append_singleton front offer ih =>
      by_cases hBefore : cookie ∈ (empty.takeAll suffixes front).cookies
      · obtain ⟨earlier, origin, later, rfl, hCookie, hSince⟩ := ih hBefore
        refine ⟨earlier, origin, later ++ [offer], by simp, hCookie, fun since hPrefix => ?_⟩
        rcases List.prefix_concat_iff.mp hPrefix with rfl | hPrefix
        · rwa [List.append_assoc, List.cons_append] at h
        · exact hSince since hPrefix
      · rw [takeAll_append] at h
        refine ⟨front, offer, [], rfl, (mem_take h).resolve_left hBefore, fun since hPrefix => ?_⟩
        rw [List.prefix_nil.mp hPrefix, takeAll_append]
        exact h

end Jar

/-- Whether a host is a domain or lies under it. -/
def IsWithin (host domain : String) : Prop :=
  host = domain ∨ ∃ front, host = front ++ "." ++ domain

theorem isWithin_of_isUnder {host domain : String} (h : isUnder host domain = true) :
    IsWithin host domain := by
  unfold isUnder at h
  rw [Bool.or_eq_true, Bool.and_eq_true, beq_iff_eq] at h
  refine h.imp id ?_
  rintro ⟨-, hSuffix⟩
  obtain ⟨front, hFront⟩ := List.isSuffixOf_iff_suffix.mp hSuffix
  refine ⟨String.ofList front, ?_⟩
  rw [← String.toList_inj]
  simp [← hFront]

/-- The labels of a host start with those of a domain that it belongs to. -/
theorem labels_prefix_of_isWithin {host domain : String} (h : IsWithin host domain) :
    Suffixes.labels domain <+: Suffixes.labels host := by
  rcases h with rfl | ⟨front, rfl⟩
  · exact List.prefix_refl _
  · refine ⟨Suffixes.labels front, ?_⟩
    unfold Suffixes.labels
    have hSplit : (front ++ "." ++ domain).toList.splitOn '.' =
        front.toList.splitOn '.' ++ domain.toList.splitOn '.' := by
      have hDot : ".".toList = ['.'] := rfl
      rw [String.append_assoc, String.toList_append, String.toList_append, hDot]
      exact List.splitOnP_append_cons _ _ (beq_self_eq_true '.')
    rw [hSplit, List.map_append, List.reverse_append]

/-- Whether two hosts lie under a suffix, but not under one and the same name in front of it. -/
def Siblings (suffix host other : String) : Prop :=
  ∃ first second front back, Suffixes.labels host = Suffixes.labels suffix ++ first :: front ∧
    Suffixes.labels other = Suffixes.labels suffix ++ second :: back ∧ first ≠ second

/-- A domain that two sites under a suffix belong to is a shorter ending of the suffix, unless it
has the labels of the suffix itself. -/
theorem prefix_of_siblings {suffix host other domain : String} (h : Siblings suffix host other)
    (hHost : IsWithin host domain) (hOther : IsWithin other domain) :
    Suffixes.labels domain <+: Suffixes.labels suffix := by
  obtain ⟨first, second, front, back, hFirst, hSecond, hNe⟩ := h
  have hLeft := labels_prefix_of_isWithin hHost
  have hRight := labels_prefix_of_isWithin hOther
  rw [hFirst] at hLeft
  rw [hSecond] at hRight
  rcases Nat.lt_or_ge (Suffixes.labels suffix).length (Suffixes.labels domain).length with hLt | hLe
  · -- A longer ending would hold the labels in which the sites differ.
    obtain ⟨rest, hRest⟩ := List.prefix_of_prefix_length_le (List.prefix_append _ _) hLeft
      (Nat.le_of_lt hLt)
    rw [← hRest, List.prefix_append_right_inj] at hLeft hRight
    cases rest with
    | nil =>
        rw [← hRest, List.append_nil] at hLt
        exact absurd hLt (Nat.lt_irrefl _)
    | cons label rest =>
        have hFirstLabel := (List.cons_prefix_cons.mp hLeft).1
        have hSecondLabel := (List.cons_prefix_cons.mp hRight).1
        exact absurd (hFirstLabel.symm.trans hSecondLabel) hNe
  · exact List.prefix_of_prefix_length_le hLeft (List.prefix_append _ _) hLe

theorem scope_of_ofText? {text : String} {url : Url} {now : Int} {cookie : Cookie}
    (h : ofText? text url now = some cookie) :
    ∃ attributes, Attributes.ofText? text = some attributes ∧
      scopeOf? attributes url = some cookie.scope := by
  obtain ⟨attributes, hAttributes, hRest⟩ := Option.bind_eq_some_iff.mp h
  split at hRest
  · cases hRest
  obtain ⟨scope, hScope, hCookie⟩ := Option.bind_eq_some_iff.mp hRest
  cases hCookie
  exact ⟨attributes, hAttributes, hScope⟩

/-- A cookie is for all names under a domain only if its text names the domain. -/
theorem domain_of_scopeOf? {attributes : Attributes} {url : Url} {domain : String}
    (h : scopeOf? attributes url = some (.under domain)) :
    attributes.domain.bind asciiName? = some domain := by
  unfold scopeOf? at h
  cases hDomain : attributes.domain with
  | none =>
      rw [hDomain] at h
      obtain ⟨_, -, hHost⟩ := Option.map_eq_some_iff.mp h
      cases hHost
  | some raw =>
      rw [hDomain] at h
      rw [Option.bind_some]
      cases hName : asciiName? raw with
      | none => simp [hName] at h
      | some name =>
          simp only [hName] at h
          split at h
          next hNone => cases hNone
          next =>
            obtain ⟨_, -, hHost⟩ := Option.map_eq_some_iff.mp h
            cases hHost
          next hRead =>
            split at h
            · cases h
              exact hRead
            · cases h

/-- A cookie of a public suffix is kept for one host. -/
theorem narrow?_eq_some {suffixes : Suffixes} {read cookie : Cookie} {url : Url}
    (h : Jar.narrow? suffixes read url = some cookie) :
    (∃ host, cookie.scope = .host host) ∨
      cookie = read ∧ suffixes.isPublic read.scope.name = false := by
  unfold Jar.narrow? at h
  split at h
  · split at h
    · obtain ⟨host, -, rfl⟩ := Option.map_eq_some_iff.mp h
      exact .inl ⟨host, rfl⟩
    · cases h
  next hNot =>
    cases h
    exact .inr ⟨rfl, Bool.eq_false_iff.mpr hNot⟩

/-- What a jar makes of an offer is kept for the host that makes it or for the domain that the
offer names, which is then no public suffix. -/
theorem Offer.scope_of_cookie? {suffixes : Suffixes} {offer : Offer} {cookie : Cookie}
    (h : offer.cookie? suffixes = some cookie) :
    cookie.scope.covers offer.url.hostText? = true ∧
      ((∃ host, cookie.scope = .host host) ∨
        ∃ domain, cookie.scope = .under domain ∧ offer.domain? = some domain ∧
          suffixes.isPublic domain = false) := by
  obtain ⟨read, hRead, hRest⟩ := Option.bind_eq_some_iff.mp h
  obtain ⟨narrowed, hNarrow, hKept⟩ := Option.bind_eq_some_iff.mp hRest
  split at hKept
  next hCovers =>
    cases hKept
    refine ⟨hCovers, (narrow?_eq_some hNarrow).elim .inl ?_⟩
    rintro ⟨rfl, hPublic⟩
    cases hScope : cookie.scope with
    | host host => exact .inl ⟨host, rfl⟩
    | under domain =>
        obtain ⟨attributes, hAttributes, hScopeOf⟩ := scope_of_ofText? hRead
        rw [hScope] at hScopeOf hPublic
        refine .inr ⟨domain, rfl, ?_, hPublic⟩
        exact Option.bind_eq_some_iff.mpr ⟨attributes, hAttributes, domain_of_scopeOf? hScopeOf⟩
  next => cases hKept

theorem Scope.covers_host {name : String} {host : Option String}
    (h : (Scope.host name).covers host = true) : host = some name := by
  cases host with
  | none => cases h
  | some host => exact congrArg some (beq_iff_eq.mp h).symm

theorem Scope.covers_under {domain : String} {host : Option String}
    (h : (Scope.under domain).covers host = true) :
    ∃ name, host = some name ∧ IsWithin name domain := by
  cases host with
  | none => cases h
  | some host => exact ⟨host, rfl, isWithin_of_isUnder h⟩

namespace Jar

/-- Whatever calls are made on a jar with whatever texts and from whatever addresses, a cookie
that it gives to a request comes from an offer and has been there ever since.  Every offer that
this cookie comes from was made by the host of the request, or it names a domain to which both
hosts belong and which no rule lists.  Two sites under a listed suffix can share a cookie only
by a domain that is a shorter ending of that suffix. -/
theorem matching_isolated (rules : List Suffixes.Rule) (calls : List Call) {url : Url} {now : Int}
    {cookie : Cookie}
    (h : cookie ∈ (empty.callAll (.ofRules rules) calls).matching url now) :
    let offers := calls.flatMap Call.offers
    (∃ earlier offer later, offers = earlier ++ offer :: later ∧
      offer.cookie? (.ofRules rules) = some cookie ∧
      ∀ since, since <+: later →
        cookie ∈ (empty.takeAll (.ofRules rules) (earlier ++ offer :: since)).cookies) ∧
    ∀ offer ∈ offers, offer.cookie? (.ofRules rules) = some cookie →
      ∃ host other, offer.url.hostText? = some host ∧ url.hostText? = some other ∧
        (host = other ∨
          ∃ domain, offer.domain? = some domain ∧ IsWithin host domain ∧ IsWithin other domain ∧
            ¬Suffixes.Listed rules (Suffixes.properLabels domain) ∧
            ∀ suffix, Suffixes.Listed rules (Suffixes.properLabels suffix) →
              Siblings suffix host other →
                Suffixes.labels domain <+: Suffixes.labels suffix ∧
                  Suffixes.labels domain ≠ Suffixes.labels suffix) := by
  intro offers
  obtain ⟨hMem, hSent⟩ := List.mem_filter.mp h
  rw [callAll_eq_takeAll] at hMem
  refine ⟨origin_of_mem hMem, fun offer _ hCookie => ?_⟩
  have hCovers : cookie.scope.covers url.hostText? = true := by
    simp only [isSentTo, Bool.and_eq_true] at hSent
    exact hSent.2.1.1.2
  obtain ⟨hOffer, ⟨name, hScope⟩ | ⟨domain, hScope, hDomain, hPublic⟩⟩ :=
    Offer.scope_of_cookie? hCookie
  · rw [hScope] at hOffer hCovers
    exact ⟨name, name, Scope.covers_host hOffer, Scope.covers_host hCovers, .inl rfl⟩
  · rw [hScope] at hOffer hCovers
    obtain ⟨host, hHost, hWithin⟩ := Scope.covers_under hOffer
    obtain ⟨other, hOther, hOtherWithin⟩ := Scope.covers_under hCovers
    have hUnlisted : ¬Suffixes.Listed rules (Suffixes.properLabels domain) := by
      rw [← Suffixes.isPublic_iff, hPublic]
      exact Bool.false_ne_true
    refine ⟨host, other, hHost, hOther, .inr ⟨domain, hDomain, hWithin, hOtherWithin, hUnlisted,
      fun suffix hListed hSiblings => ⟨prefix_of_siblings hSiblings hWithin hOtherWithin, ?_⟩⟩⟩
    intro hSame
    refine hUnlisted ?_
    rwa [Suffixes.properLabels, hSame]

/-- The address of a host. -/
def site (host : String) : Url :=
  ⟨"http", [], none, some (.domain host), none, .segments [[]], none, none⟩

/-- A cookie for a domain with pages of many owners below it. -/
def sharedCookie : Cookie := ⟨"k", "v", .under "rit.edu", "/", false, false, none⟩

/-- The only rules of the list with that last label. -/
theorem listedRules_edu :
    Suffixes.listedRules.filter (fun rule => rule.labels.head? = some "edu") =
      [⟨["edu"], .listed⟩, ⟨["edu", "rit", "git-pages"], .listed⟩] := by
  have hGroup : listedSuffixes.filter (fun group => group.1 = "edu") =
      [("edu", "@ git-pages.rit")] := by decide +kernel
  rw [Suffixes.filter_listedRules, hGroup]
  decide +kernel

theorem listed_gitPages :
    Suffixes.Listed Suffixes.listedRules (Suffixes.properLabels "git-pages.rit.edu") := by
  have hLabels : Suffixes.properLabels "git-pages.rit.edu" = ["edu", "rit", "git-pages"] := by
    decide +kernel
  rw [hLabels, ← Suffixes.listed_filter_iff, listedRules_edu]
  refine ⟨["edu", "rit", "git-pages"], by simp, .same ?_ (.same ?_ (.same ?_ (.done _))), rfl, ?_⟩
  · exact ⟨_, List.mem_cons_self, by decide⟩
  · exact ⟨_, List.mem_cons_of_mem _ List.mem_cons_self, by decide⟩
  · exact ⟨_, List.mem_cons_of_mem _ List.mem_cons_self, by decide⟩
  · intro n _ hExempt
    simpa using Suffixes.mem_of_verdict? hExempt

/-- No rule lists the domain above it. -/
theorem not_listed_rit :
    ¬Suffixes.Listed Suffixes.listedRules (Suffixes.properLabels "rit.edu") := by
  have hLabels : Suffixes.properLabels "rit.edu" = ["edu", "rit"] := by decide +kernel
  rw [hLabels, ← Suffixes.listed_filter_iff, listedRules_edu]
  rintro ⟨path, -, hFits, hListed, -⟩
  have hRule := Suffixes.mem_of_verdict? hListed
  have hLength := hFits.length_eq
  simp only [List.mem_cons, Suffixes.Rule.mk.injEq, and_true, List.not_mem_nil, or_false] at hRule
  rcases hRule with rfl | rfl <;> simp at hLength

/-- One owner's response sets the cookie, and the jar keeps it for the whole domain. -/
theorem callAll_shared {suffixes : Suffixes} (hPublic : suffixes.isPublic "rit.edu" = false) :
    empty.callAll suffixes
        [.add "k=v; Domain=rit.edu; Path=/" (site "alice.git-pages.rit.edu") 0] =
      ⟨[sharedCookie]⟩ := by
  have hRead : ofText? "k=v; Domain=rit.edu; Path=/" (site "alice.git-pages.rit.edu") 0 =
      some sharedCookie := by decide +kernel
  have hNarrow : narrow? suffixes sharedCookie (site "alice.git-pages.rit.edu") =
      some sharedCookie := by
    rw [narrow?, show sharedCookie.scope.name = "rit.edu" from rfl, hPublic]
    rfl
  have hCovers : sharedCookie.scope.covers (site "alice.git-pages.rit.edu").hostText? = true := by
    decide +kernel
  simp only [callAll, List.foldl_cons, List.foldl_nil, call, add, add?, hRead, Option.bind_some,
    insert?, hNarrow, Option.bind_eq_bind, hCovers, if_true]
  rfl

theorem isPublic_rit : Suffixes.standard.isPublic "rit.edu" = false := by
  rw [← Bool.not_eq_true, Suffixes.standard, Suffixes.isPublic_iff]
  exact not_listed_rit

theorem siblings_gitPages :
    Siblings "git-pages.rit.edu" "alice.git-pages.rit.edu" "bob.git-pages.rit.edu" :=
  ⟨"alice", "bob", [], [], by decide +kernel, by decide +kernel, by decide⟩

/-- What the response of one of two sites offers for the domain above both. -/
def sharedOffer : Offer := ⟨"k=v; Domain=rit.edu; Path=/", site "alice.git-pages.rit.edu", 0⟩

/-- What one owner sets reaches another: the domain that it is set for is a shorter ending of
their suffix. -/
theorem matching_isolated_shared :
    ∃ domain, sharedOffer.domain? = some domain ∧
      IsWithin "alice.git-pages.rit.edu" domain ∧ IsWithin "bob.git-pages.rit.edu" domain ∧
        Suffixes.labels domain <+: Suffixes.labels "git-pages.rit.edu" ∧
        Suffixes.labels domain ≠ Suffixes.labels "git-pages.rit.edu" := by
  have hReaches : sharedCookie ∈ (empty.callAll (.ofRules Suffixes.listedRules)
      [.add sharedOffer.text sharedOffer.url 0]).matching (site "bob.git-pages.rit.edu") 0 := by
    rw [← Suffixes.standard, sharedOffer, callAll_shared isPublic_rit]
    decide +kernel
  obtain ⟨⟨earlier, offer, later, hOffers, hCookie, -⟩, hIsolated⟩ :=
    matching_isolated Suffixes.listedRules _ hReaches
  have hMem : offer ∈ [sharedOffer] := by
    rw [show [sharedOffer] = earlier ++ offer :: later from hOffers]
    exact List.mem_append_right _ List.mem_cons_self
  obtain rfl := List.mem_singleton.mp hMem
  obtain ⟨host, other, hHost, hOther, hFound⟩ := hIsolated _ hMem hCookie
  obtain rfl : "alice.git-pages.rit.edu" = host := Option.some.inj hHost
  obtain rfl : "bob.git-pages.rit.edu" = other := Option.some.inj hOther
  rcases hFound with hSame | ⟨domain, hDomain, hWithin, hOtherWithin, -, hShort⟩
  · exact absurd hSame (by decide)
  · exact ⟨domain, hDomain, hWithin, hOtherWithin, hShort _ listed_gitPages siblings_gitPages⟩

/-- The rules of the list list a suffix, two sites lie under it, and what the response of one of
them sets is carried to the other. -/
theorem shared_below_listed :
    Suffixes.Listed Suffixes.listedRules (Suffixes.properLabels "git-pages.rit.edu") ∧
      Siblings "git-pages.rit.edu" "alice.git-pages.rit.edu" "bob.git-pages.rit.edu" ∧
      (empty.callAll .standard
        [.add "k=v; Domain=rit.edu; Path=/" (site "alice.git-pages.rit.edu") 0]).header?
          (site "bob.git-pages.rit.edu") 0 = some "k=v" := by
  refine ⟨listed_gitPages, siblings_gitPages, ?_⟩
  rw [callAll_shared isPublic_rit]
  decide +kernel

end Jar
end Cookie
end Wiretap
