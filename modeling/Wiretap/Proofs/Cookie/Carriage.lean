import Wiretap.Proofs.Cookie.Isolation
import Wiretap.Proofs.Header.Naming
import Wiretap.Proofs.Text.Utf8

/-!
# What requests carry of a jar

The cookies that belong to a request are put into one text, and a request carries that text
if it is a legal header value.  A jar also takes cookies that are not, so a text that is there
may be carried or not.

* `Header.isValueChar` says which characters may stand in a header value given as text.
* `Cookie.isLegal` says that a cookie has no other characters in its name and value.
* `Jar.carried?_of_callAll` is the statement: the text is carried as it is if every cookie in
  it is legal, and nothing is carried otherwise.  A cookie that is not legal comes from a text
  that was given to the jar as such, never from a header value.
* `Jar.carried?_of_broken_line` shows a cookie that takes all others out of a request.
-/

namespace Wiretap
namespace Header

/-- Whether a character may stand in a header value: it is no control character of ASCII other
than the tab. -/
def isValueChar (c : Char) : Bool :=
  c.toNat == 9 || (32 ≤ c.toNat && c.toNat != 127)

theorem isValueByte_of_le {b : UInt8} (h : 128 ≤ b) : isValueByte b = true := by
  have hNe : b ≠ 127 := by
    rintro rfl
    exact absurd h (by decide)
  have hLe : 32 ≤ b := UInt8.le_trans (by decide) h
  simp [isValueByte, hNe, hLe]

theorem all_isValueByte_ascii :
    ∀ n : Fin 128, (String.utf8EncodeChar (Char.ofNat n)).all isValueByte =
      isValueChar (Char.ofNat n) := by
  decide

theorem all_isValueByte_utf8EncodeChar (c : Char) :
    (String.utf8EncodeChar c).all isValueByte = isValueChar c := by
  rcases Nat.lt_or_ge c.toNat 128 with hAscii | hOther
  · simpa using all_isValueByte_ascii ⟨c.toNat, hAscii⟩
  · have hBytes : (String.utf8EncodeChar c).all isValueByte = true :=
      List.all_eq_true.mpr fun b hMem =>
        isValueByte_of_le (Bytes.le_of_mem_utf8EncodeChar hOther hMem)
    have hLe : 32 ≤ c.toNat := by omega
    have hNe : c.toNat ≠ 127 := by omega
    simp [hBytes, isValueChar, hLe, hNe]

/-- A text is a legal header value if all of its characters may stand in one. -/
theorem all_isValueByte_ofString (text : String) :
    (Bytes.ofString text).all isValueByte = text.toList.all isValueChar := by
  rw [Bytes.ofString, Bytes.ofChars, List.all_flatMap]
  exact List.all_congr rfl fun c => all_isValueByte_utf8EncodeChar c

theorem Value.map_bytes_ofString? (text : String) :
    (Value.ofString? text).map Value.bytes =
      if text.toList.all isValueChar then some (Bytes.ofString text) else none := by
  rw [← all_isValueByte_ofString, ofString?, ofBytes?]
  split <;> simp_all

/-- The text of a header value is legal. -/
theorem Value.all_isValueChar_text? {value : Value} {text : String}
    (h : Utf8.text? value.bytes = some text) : text.toList.all isValueChar = true := by
  rw [← all_isValueByte_ofString, Utf8.ofString_text? h]
  exact value.legal

end Header

theorem all_intercalate {α : Type} {p : α → Bool} {between : List α}
    (h : between.all p = true) (parts : List (List α)) :
    (between.intercalate parts).all p = parts.all fun part => part.all p := by
  induction parts with
  | nil => rfl
  | cons part rest ih =>
      cases rest with
      | nil => simp
      | cons next rest =>
          rw [List.intercalate_cons_cons, List.all_append, List.all_append, h, ih, Bool.and_true]
          rfl

theorem Blank.toList_trim_subset (text : String) : (Blank.trim text).toList ⊆ text.toList := by
  intro c hMem
  rw [Blank.trim, String.toList_ofList, Blank.trimWhere, List.mem_reverse] at hMem
  have hFront := List.dropWhile_subset _ hMem
  exact List.dropWhile_subset _ (List.mem_reverse.mp hFront)

namespace Cookie

/-- Whether the name and the value of a cookie may stand in a header value. -/
def isLegal (cookie : Cookie) : Bool := cookie.text.toList.all Header.isValueChar

namespace Attributes

/-- Both sides of an equals sign are parts of the text. -/
theorem splitPair_subset {chars : List Char} {name value : String}
    (h : splitPair chars = (name, some value)) : name.toList ⊆ chars ∧ value.toList ⊆ chars := by
  unfold splitPair at h
  split at h
  next first after hAfter =>
    obtain ⟨rfl, hSome⟩ := Prod.mk.inj h
    obtain rfl := Option.some.inj hSome
    refine ⟨fun c hMem => ?_, fun c hMem => ?_⟩
    · have hBefore := Blank.toList_trim_subset _ hMem
      rw [String.toList_ofList] at hBefore
      exact List.takeWhile_subset _ hBefore
    · have hBehind := Blank.toList_trim_subset _ hMem
      rw [String.toList_ofList] at hBehind
      refine List.dropWhile_subset (· != '=') ?_
      rw [hAfter]
      exact List.mem_cons_of_mem _ hBehind
  next => cases (Prod.mk.inj h).2

/-- An attribute leaves the name and the value alone. -/
theorem add_pair (attributes : Attributes) (chars : List Char) :
    (attributes.add chars).name = attributes.name ∧
      (attributes.add chars).value = attributes.value := by
  unfold add
  rcases splitPair chars with ⟨key, value⟩
  dsimp only
  split
  · exact ⟨rfl, rfl⟩
  · exact ⟨rfl, rfl⟩
  · split <;> exact ⟨rfl, rfl⟩
  · split <;> exact ⟨rfl, rfl⟩
  · exact ⟨rfl, rfl⟩
  · split <;> exact ⟨rfl, rfl⟩
  · exact ⟨rfl, rfl⟩

theorem foldl_add_pair (attributes : Attributes) (parts : List (List Char)) :
    (parts.foldl add attributes).name = attributes.name ∧
      (parts.foldl add attributes).value = attributes.value := by
  induction parts generalizing attributes with
  | nil => exact ⟨rfl, rfl⟩
  | cons part rest ih =>
      obtain ⟨hName, hValue⟩ := ih (attributes.add part)
      obtain ⟨hNameOne, hValueOne⟩ := attributes.add_pair part
      exact ⟨hName.trans hNameOne, hValue.trans hValueOne⟩

/-- The name and the value that are read are parts of the text. -/
theorem pair_subset_of_ofText? {text : String} {attributes : Attributes}
    (h : ofText? text = some attributes) :
    attributes.name.toList ⊆ text.toList ∧ attributes.value.toList ⊆ text.toList := by
  unfold ofText? at h
  split at h
  next pair rest hSplit =>
    have hPair : pair ⊆ text.toList := by
      have hText : List.intercalate [';'] (text.toList.splitOn ';') = text.toList :=
        List.intercalate_splitOn ';'
      rw [← hText, hSplit]
      cases rest <;> simp
    split at h
    next name value hPairSplit =>
      split at h
      · cases h
      · obtain rfl := Option.some.inj h
        obtain ⟨hName, hValue⟩ := splitPair_subset hPairSplit
        obtain ⟨hNameRest, hValueRest⟩ :=
          foldl_add_pair ⟨name, value, none, none, false, false, none, none⟩ rest
        rw [hNameRest, hValueRest]
        exact ⟨List.Subset.trans hName hPair, List.Subset.trans hValue hPair⟩
    next => cases h
  next => cases h

end Attributes

/-- A cookie is as legal as the text that it is read from. -/
theorem isLegal_of_ofText? {text : String} {url : Url} {now : Int} {cookie : Cookie}
    (h : ofText? text url now = some cookie) (hText : text.toList.all Header.isValueChar = true) :
    cookie.isLegal = true := by
  obtain ⟨attributes, hAttributes, hRest⟩ := Option.bind_eq_some_iff.mp h
  split at hRest
  · cases hRest
  obtain ⟨scope, -, hCookie⟩ := Option.bind_eq_some_iff.mp hRest
  obtain rfl := Option.some.inj hCookie
  obtain ⟨hName, hValue⟩ := Attributes.pair_subset_of_ofText? hAttributes
  have hEquals : Header.isValueChar '=' = true := by decide
  rw [List.all_eq_true] at hText
  simp only [isLegal, Cookie.text, String.toList_append, List.all_append, Bool.and_eq_true,
    List.all_eq_true]
  exact ⟨⟨fun c hMem => hText c (hName hMem), by simpa using hEquals⟩,
    fun c hMem => hText c (hValue hMem)⟩

/-- Where a cookie is kept does not change how it stands in a request. -/
theorem text_of_narrow? {suffixes : Suffixes} {read cookie : Cookie} {url : Url}
    (h : Jar.narrow? suffixes read url = some cookie) : cookie.text = read.text := by
  unfold Jar.narrow? at h
  split at h
  · split at h
    · obtain ⟨host, -, rfl⟩ := Option.map_eq_some_iff.mp h
      rfl
    · cases h
  · cases h
    rfl

theorem Offer.isLegal_of_cookie? {suffixes : Suffixes} {offer : Offer} {cookie : Cookie}
    (h : offer.cookie? suffixes = some cookie)
    (hText : offer.text.toList.all Header.isValueChar = true) : cookie.isLegal = true := by
  obtain ⟨read, hRead, hRest⟩ := Option.bind_eq_some_iff.mp h
  obtain ⟨narrowed, hNarrow, hKept⟩ := Option.bind_eq_some_iff.mp hRest
  split at hKept
  · cases hKept
    rw [isLegal, text_of_narrow? hNarrow]
    exact isLegal_of_ofText? hRead hText
  · cases hKept

namespace Jar

/-- What header values offer is legal, so an offer that is not was given as a text. -/
theorem Call.eq_add_of_offers {c : Call} {offer : Offer} (h : offer ∈ c.offers)
    (hText : offer.text.toList.all Header.isValueChar = false) :
    c = .add offer.text offer.url offer.now := by
  cases c with
  | add text url now =>
      obtain rfl := List.mem_singleton.mp h
      rfl
  | addAll values url now =>
      obtain ⟨text, hMem, rfl⟩ := List.mem_map.mp h
      obtain ⟨value, -, hRead⟩ := List.mem_filterMap.mp hMem
      rw [Header.Value.all_isValueChar_text? hRead] at hText
      cases hText

/-- The text of cookies is legal if all of them are. -/
theorem all_isValueChar_intercalate (cookies : List Cookie) :
    ("; ".intercalate (cookies.map Cookie.text)).toList.all Header.isValueChar =
      cookies.all isLegal := by
  have hBetween : "; ".toList.all Header.isValueChar = true := by decide
  rw [String.toList_intercalate, all_intercalate hBetween, List.map_map, List.all_map]
  rfl

/-- The text of the cookies that belong to a request is carried as it is, or not at all. -/
theorem map_bytes_carried? (jar : Jar) (url : Url) (now : Int) :
    (jar.carried? url now).map Header.Value.bytes =
      if (jar.matching url now).all isLegal then (jar.header? url now).map Bytes.ofString
      else none := by
  unfold carried? header?
  split
  next hNone => simp [hNone]
  next => rw [Option.bind_some, Header.Value.map_bytes_ofString?, all_isValueChar_intercalate]; rfl

theorem isSome_header? {jar : Jar} {url : Url} {now : Int} (h : jar.matching url now ≠ []) :
    (jar.header? url now).isSome = true := by
  unfold header?
  split
  next hNone => exact absurd hNone h
  next => rfl

/-- Whatever calls are made on a jar, the text of the cookies that belong to a request is carried
byte for byte if each of them is legal.  If one is not, the text is there all the same, but
nothing is carried, and that cookie was given to the jar as a text with a control character. -/
theorem carried?_of_callAll (suffixes : Suffixes) (calls : List Call) (url : Url) (now : Int) :
    let jar := empty.callAll suffixes calls
    ((∀ cookie ∈ jar.matching url now, cookie.isLegal = true) →
      (jar.carried? url now).map Header.Value.bytes =
        (jar.header? url now).map Bytes.ofString) ∧
    ∀ cookie ∈ jar.matching url now, cookie.isLegal = false →
      jar.carried? url now = none ∧ (jar.header? url now).isSome = true ∧
        ∃ text source moment, .add text source moment ∈ calls ∧
          (⟨text, source, moment⟩ : Offer).cookie? suffixes = some cookie ∧
          text.toList.all Header.isValueChar = false := by
  intro jar
  have hCarried := jar.map_bytes_carried? url now
  refine ⟨fun hLegal => ?_, fun cookie hMem hIllegal => ⟨?_, ?_, ?_⟩⟩
  · rwa [if_pos (List.all_eq_true.mpr hLegal)] at hCarried
  · have hNot : ¬(jar.matching url now).all isLegal = true := fun hAll =>
      Bool.false_ne_true (hIllegal.symm.trans (List.all_eq_true.mp hAll cookie hMem))
    rw [if_neg hNot] at hCarried
    exact Option.map_eq_none_iff.mp hCarried
  · exact isSome_header? (List.ne_nil_of_mem hMem)
  · have hStored : cookie ∈ (empty.takeAll suffixes (calls.flatMap Call.offers)).cookies := by
      rw [← callAll_eq_takeAll]
      exact (List.mem_filter.mp hMem).1
    obtain ⟨earlier, offer, later, hOffers, hCookie, -⟩ := origin_of_mem hStored
    have hText : offer.text.toList.all Header.isValueChar = false := by
      by_contra hLegal
      rw [Bool.not_eq_false] at hLegal
      exact Bool.false_ne_true (hIllegal.symm.trans (Offer.isLegal_of_cookie? hCookie hLegal))
    have hOffer : offer ∈ calls.flatMap Call.offers := by
      rw [hOffers]
      exact List.mem_append_right _ List.mem_cons_self
    obtain ⟨c, hCall, hMade⟩ := List.mem_flatMap.mp hOffer
    rw [Call.eq_add_of_offers hMade hText] at hCall
    exact ⟨offer.text, offer.url, offer.now, hCall, hCookie, hText⟩

/-- A cookie of a domain that no rule lists stays as it was read. -/
theorem narrow?_of_unlisted {suffixes : Suffixes} {cookie : Cookie} (url : Url)
    (hPublic : suffixes.isPublic cookie.scope.name = false) :
    narrow? suffixes cookie url = some cookie := by
  rw [narrow?, hPublic, if_neg Bool.false_ne_true]

/-- A cookie of a domain that no rule lists is put into the jar if its key is new. -/
theorem add_of_unlisted {suffixes : Suffixes} {now : Int} {jar : Jar} {text : String} {url : Url}
    {cookie : Cookie} (hPublic : suffixes.isPublic cookie.scope.name = false)
    (hRead : ofText? text url now = some cookie)
    (hCovers : cookie.scope.covers url.hostText? = true)
    (hNew : jar.find? cookie.key now = none) (hFresh : cookie.isExpired now = false) :
    jar.add suffixes now text url = (jar.put cookie, true) := by
  have hInsert : jar.insert? suffixes now cookie url = some (jar.put cookie) := by
    simp [insert?, narrow?_of_unlisted url hPublic, hCovers, hNew, hFresh]
  rw [add, add?, hRead, Option.bind_some, hInsert]

/-- A cookie that is carried. -/
def soundCookie : Cookie := ⟨"a", "1", .host "rit.edu", "/", false, false, none⟩

/-- A cookie with a line feed in its value. -/
def brokenCookie : Cookie := ⟨"b", "x\ny", .host "rit.edu", "/", false, false, none⟩

variable {suffixes : Suffixes}

/-- The texts that they are read from, given to an empty jar. -/
def brokenCalls : List Call :=
  [.add "a=1" (site "rit.edu") 0, .add "b=x\ny" (site "rit.edu") 0]

theorem callAll_soundCookie (hPublic : suffixes.isPublic "rit.edu" = false) :
    empty.callAll suffixes (brokenCalls.take 1) = ⟨[soundCookie]⟩ := by
  have hRead : ofText? "a=1" (site "rit.edu") 0 = some soundCookie := by decide
  have hCovers : soundCookie.scope.covers (site "rit.edu").hostText? = true := by decide
  have hAdd : empty.add suffixes 0 "a=1" (site "rit.edu") = (empty.put soundCookie, true) :=
    add_of_unlisted hPublic hRead hCovers rfl rfl
  exact congrArg Prod.fst hAdd

theorem callAll_brokenCookie (hPublic : suffixes.isPublic "rit.edu" = false) :
    empty.callAll suffixes brokenCalls = ⟨[soundCookie, brokenCookie]⟩ := by
  have hRead : ofText? "b=x\ny" (site "rit.edu") 0 = some brokenCookie := by decide
  have hCovers : brokenCookie.scope.covers (site "rit.edu").hostText? = true := by decide
  have hCalls : empty.callAll suffixes brokenCalls =
      (empty.callAll suffixes (brokenCalls.take 1)).call suffixes
        (.add "b=x\ny" (site "rit.edu") 0) := rfl
  have hNew : Jar.find? ⟨[soundCookie]⟩ brokenCookie.key 0 = none := by decide
  have hAdd : Jar.add suffixes 0 ⟨[soundCookie]⟩ "b=x\ny" (site "rit.edu") =
      (Jar.put ⟨[soundCookie]⟩ brokenCookie, true) :=
    add_of_unlisted hPublic hRead hCovers hNew rfl
  rw [hCalls, callAll_soundCookie hPublic]
  exact congrArg Prod.fst hAdd

/-- The jar takes a cookie whose value is broken by a line feed, and from then on the cookie that
it held before is not carried either. -/
theorem carried?_of_broken_line :
    ((empty.callAll .standard (brokenCalls.take 1)).carried? (site "rit.edu") 0).map
        Header.Value.bytes = some (Bytes.ofString "a=1") ∧
      (empty.callAll .standard brokenCalls).header? (site "rit.edu") 0 = some "a=1; b=x\ny" ∧
      (empty.callAll .standard brokenCalls).carried? (site "rit.edu") 0 = none := by
  rw [callAll_soundCookie isPublic_rit, callAll_brokenCookie isPublic_rit]
  exact ⟨by decide, by decide, by decide⟩

/-- The text of the first cookie alone is carried, and that of both is not. -/
theorem carried?_of_callAll_soundCookie :
    ((empty.callAll .standard (brokenCalls.take 1)).carried? (site "rit.edu") 0).map
        Header.Value.bytes =
      ((empty.callAll .standard (brokenCalls.take 1)).header? (site "rit.edu") 0).map
        Bytes.ofString ∧
      (empty.callAll .standard brokenCalls).carried? (site "rit.edu") 0 = none := by
  have hSound := carried?_of_callAll .standard (brokenCalls.take 1) (site "rit.edu") 0
  have hBroken := carried?_of_callAll .standard brokenCalls (site "rit.edu") 0
  rw [callAll_soundCookie isPublic_rit] at hSound ⊢
  rw [callAll_brokenCookie isPublic_rit] at hBroken ⊢
  have hMem : brokenCookie ∈ matching ⟨[soundCookie, brokenCookie]⟩ (site "rit.edu") 0 := by
    decide
  exact ⟨hSound.1 (by decide), (hBroken.2 brokenCookie hMem (by decide)).1⟩

end Jar
end Cookie
end Wiretap
